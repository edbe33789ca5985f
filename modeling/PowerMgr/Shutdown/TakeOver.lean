import PowerMgr.Clients.PriorityHolders
import PowerMgr.Shutdown.Exclusive
import Mathlib.Data.List.Pairwise

/-!
# Asking whether somebody takes over

Before a shutdown that is not forced, and before a hibernation from the shutdown menu, the registered
clients are asked whether they take it over, level by level.  All clients of a level are asked, and the
next level only when none of them has taken over.

* `triggerTakeOverShutdownCallback`, `triggerTakeOverHibernateCallback` — the two cascades of
  `shutdown_controller.cpp`, with what they do in the order in which they do it;
* `Consultation` — what a cascade asks, and what it says of the answers;
* `rebootOrShutdown` — one call with its detached thread, nothing coming between;
* `takeOver_decides` — both cascades are such consultations, and a call shuts down exactly when
  nobody who was asked takes over.

Who is registered does not change while the clients are asked.
-/

namespace PowerMgr.Shutdown.TakeOver

open Clients.PriorityHolders (Callback Priority Holder HolderKind Call)
open Exclusive (allowedToBeTakenOver)

structure TakeOverInfo where
  reason : String
  intfParam : Bool
  deriving DecidableEq, Repr

/-- `OnTakeOverShutdown` or `OnTakeOverHibernate`. -/
inductive Question where
  | shutdown
  | hibernate
  deriving DecidableEq, Repr

/-- The event that says who took over. -/
def Question.statistic : Question → String
  | .shutdown => "SHUTDOWN_STATISTIC"
  | .hibernate => "HIBERNATE_STATISTIC"

/-- What a cascade does: it reads the clients of a level, asks one of them, or reports the uid of the
last one of the level that took over. -/
inductive Entry where
  | entered (priority : Priority)
  | asked (priority : Priority) (callback : Callback) (question : Question) (info : TakeOverInfo) (answer : Bool)
  | reported (priority : Priority) (event : String) (takeoverUid : Int)
  deriving DecidableEq, Repr

def Entry.priority : Entry → Priority
  | .entered priority => priority
  | .asked priority _ _ _ _ => priority
  | .reported priority _ _ => priority

def Entry.tookOver : Entry → Bool
  | .asked _ _ _ _ answer => answer
  | .entered _ | .reported _ _ _ => false

/-- Who was asked, at which level. -/
def Entry.client? : Entry → Option (Priority × Callback)
  | .asked priority callback _ _ _ => some (priority, callback)
  | .entered _ | .reported _ _ _ => none

/-- The clients: whose object is a callback of this kind, and what each answers, which may depend on
everything done before. -/
structure Clients where
  castable : Callback → Bool
  answer : List Entry → Question → TakeOverInfo → Callback → Bool
  -- `HAS_HIVIEWDFX_HISYSEVENT_PART`
  reports : Bool

/-! ## The cascades -/

/-- The variables of the loop over a level. -/
structure Round where
  isTakeover : Bool := false
  takeoverUid : Int := 0
  trace : List Entry

section Cascade

variable (clients : Clients) (holder : Holder)

/-- The body of the loop. -/
def consult (question : Question) (info : TakeOverInfo) (priority : Priority) (round : Round) (obj : Callback) :
    Round :=
  let pidUid := holder.cachedRegister.getD obj (0, 0)
  if !clients.castable obj then round
  else
    let answer := clients.answer round.trace question info obj
    { isTakeover := round.isTakeover || answer
      takeoverUid := if answer then pidUid.2 else round.takeoverUid
      trace := round.trace ++ [.asked priority obj question info answer] }

/-- The loop over one level; `trace` is what was done before. -/
def triggerInner (question : Question) (info : TakeOverInfo) (priority : Priority) (trace : List Entry) :
    Bool × List Entry :=
  let callbacks := (holder.callbacks priority).toList
  let round := callbacks.foldl (consult clients holder question info priority)
    { trace := trace ++ [.entered priority] }
  (round.isTakeover,
    if clients.reports && round.isTakeover then
      round.trace ++ [.reported priority question.statistic round.takeoverUid]
    else round.trace)

/-- Level by level, until one has taken over. -/
def trigger (question : Question) (info : TakeOverInfo) : List Priority → List Entry → Bool × List Entry
  | [], trace => (false, trace)
  | priority :: priorities, trace =>
    let (isTakeover, trace) := triggerInner clients holder question info priority trace
    if isTakeover then (true, trace) else trigger question info priorities trace

/-- `ShutdownController::TriggerTakeOverShutdownCallback`. -/
def triggerTakeOverShutdownCallback (info : TakeOverInfo) (trace : List Entry) : Bool × List Entry :=
  trigger clients holder .shutdown info [.highest, .high, .default, .low, .lowest] trace

/-- `ShutdownController::TriggerTakeOverHibernateCallback`. -/
def triggerTakeOverHibernateCallback (info : TakeOverInfo) (trace : List Entry) : Bool × List Entry :=
  trigger clients holder .hibernate info [.highest, .high, .default, .low, .lowest] trace

end Cascade

/-! ## What a consultation is -/

/-- Every recorded answer is the one the client gave then. -/
def Answered (clients : Clients) : List Entry → List Entry → Prop
  | _, [] => True
  | before, entry :: trace =>
    (∀ priority callback question info answer, entry = .asked priority callback question info answer →
      answer = clients.answer before question info callback) ∧ Answered clients (before ++ [entry]) trace

/-- What is done for the given levels, after `before`, and the result. -/
structure Consultation (clients : Clients) (holder : Holder) (question : Question) (info : TakeOverInfo)
    (priorities : List Priority) (before trace : List Entry) (isTakeover : Bool) : Prop where
  -- the result says whether somebody took over
  takeover_iff : isTakeover = true ↔ ∃ entry ∈ trace, entry.tookOver = true
  -- a level is entered when no higher one has taken over
  entered_iff : ∀ priority ∈ priorities, .entered priority ∈ trace ↔
    ∀ entry ∈ trace, entry.tookOver = true → ¬ entry.priority.rank < priority.rank
  -- of a level that is entered all are asked who are callbacks, and nobody else is asked
  asked_iff : ∀ priority callback, (∃ answer, .asked priority callback question info answer ∈ trace) ↔
    .entered priority ∈ trace ∧ callback ∈ holder.callbacks priority ∧ clients.castable callback = true
  -- the question is asked with these arguments, and nobody is asked twice
  question : ∀ priority callback question' info' answer, .asked priority callback question' info' answer ∈ trace →
    question' = question ∧ info' = info
  once : (trace.filterMap Entry.client?).Nodup
  answered : Answered clients before trace
  -- higher levels come first
  ordered : trace.Pairwise fun entry entry' => entry.priority.rank ≤ entry'.priority.rank
  levels : ∀ entry ∈ trace, entry.priority ∈ priorities

section Answered

variable {clients : Clients}

theorem answered_append {before trace trace' : List Entry} (h : Answered clients before trace)
    (h' : Answered clients (before ++ trace) trace') : Answered clients before (trace ++ trace') := by
  induction trace generalizing before with
  | nil => simpa using h'
  | cons entry trace ih =>
    refine ⟨h.1, ih h.2 ?_⟩
    simpa using h'

/-- Entries that are no answers. -/
theorem answered_singleton {before : List Entry} {entry : Entry} (h : entry.client? = none) :
    Answered clients before [entry] := by
  refine ⟨fun priority callback question info answer heq => ?_, trivial⟩
  subst heq
  simp [Entry.client?] at h

end Answered

/-! ## One level -/

section Level

variable {clients : Clients} {holder : Holder} {question : Question} {info : TakeOverInfo} {priority : Priority}

/-- Clients of a level with their answers, as entries. -/
def askedEntries (question : Question) (info : TakeOverInfo) (priority : Priority) (asks : List (Callback × Bool)) :
    List Entry :=
  asks.map fun ask => .asked priority ask.1 question info ask.2

/-- The report of a level, if somebody of it took over. -/
def reportEntries (clients : Clients) (question : Question) (priority : Priority) (isTakeover : Bool)
    (takeoverUid : Int) : List Entry :=
  if clients.reports && isTakeover then [.reported priority question.statistic takeoverUid] else []

theorem mem_reportEntries {isTakeover : Bool} {takeoverUid : Int} {entry : Entry}
    (hentry : entry ∈ reportEntries clients question priority isTakeover takeoverUid) :
    entry = .reported priority question.statistic takeoverUid := by
  unfold reportEntries at hentry
  split at hentry
  · exact List.mem_singleton.mp hentry
  · cases hentry

theorem answered_reportEntries (before : List Entry) (isTakeover : Bool) (takeoverUid : Int) :
    Answered clients before (reportEntries clients question priority isTakeover takeoverUid) := by
  unfold reportEntries
  split
  · exact answered_singleton rfl
  · trivial

variable (clients holder question info priority) in
/-- The loop asks those who are callbacks, in order, and remembers whether one took over. -/
theorem foldl_consult (callbacks : List Callback) (round : Round) :
    ∃ asks takeoverUid, callbacks.foldl (consult clients holder question info priority) round =
        ⟨round.isTakeover || asks.any Prod.snd, takeoverUid, round.trace ++ askedEntries question info priority asks⟩ ∧
      asks.map Prod.fst = callbacks.filter clients.castable ∧
      Answered clients round.trace (askedEntries question info priority asks) := by
  induction callbacks generalizing round with
  | nil => exact ⟨[], round.takeoverUid, by simp [askedEntries], rfl, trivial⟩
  | cons obj callbacks ih =>
    rw [List.foldl_cons]
    cases hcast : clients.castable obj with
    | false =>
      have hskip : consult clients holder question info priority round obj = round := by
        simp [consult, hcast]
      obtain ⟨asks, takeoverUid, hfold, hasks, hanswered⟩ := ih round
      exact ⟨asks, takeoverUid, by rw [hskip, hfold], by simp [hasks, hcast], hanswered⟩
    | true =>
      obtain ⟨asks, takeoverUid, hfold, hasks, hanswered⟩ :=
        ih (consult clients holder question info priority round obj)
      simp only [consult, hcast, Bool.not_true, Bool.false_eq_true, if_false] at hfold hanswered
      refine ⟨(obj, clients.answer round.trace question info obj) :: asks, takeoverUid, ?_, ?_, ?_⟩
      · simp only [consult, hcast, Bool.not_true, Bool.false_eq_true, if_false, hfold]
        simp [askedEntries, Bool.or_assoc]
      · simp [hasks, hcast]
      · refine ⟨fun _ _ _ _ _ heq => ?_, hanswered⟩
        cases heq
        rfl

variable (clients holder question info priority) in
/-- A level is entered, all its callbacks are asked, and a take-over is reported. -/
theorem triggerInner_eq (before : List Entry) :
    ∃ asks takeoverUid, triggerInner clients holder question info priority before =
        (asks.any Prod.snd, before ++ (.entered priority :: askedEntries question info priority asks ++
          reportEntries clients question priority (asks.any Prod.snd) takeoverUid)) ∧
      asks.map Prod.fst = (holder.callbacks priority).toList.filter clients.castable ∧
      Answered clients (before ++ [.entered priority]) (askedEntries question info priority asks) := by
  obtain ⟨asks, takeoverUid, hfold, hasks, hanswered⟩ :=
    foldl_consult clients holder question info priority (holder.callbacks priority).toList
      { trace := before ++ [.entered priority] }
  refine ⟨asks, takeoverUid, ?_, hasks, hanswered⟩
  simp only [triggerInner, hfold, Bool.false_or, reportEntries]
  split <;> simp

/-- The entries of a level: `reports` holds reports of it only. -/
def levelEntries (question : Question) (info : TakeOverInfo) (priority : Priority) (asks : List (Callback × Bool))
    (reports : List Entry) : List Entry :=
  .entered priority :: askedEntries question info priority asks ++ reports

section Entries

variable {asks : List (Callback × Bool)} {reports : List Entry}
  (hreports : ∀ entry ∈ reports, ∃ event takeoverUid, entry = .reported priority event takeoverUid)

include hreports

theorem mem_levelEntries {entry : Entry} (hentry : entry ∈ levelEntries question info priority asks reports) :
    entry = .entered priority ∨ (∃ ask ∈ asks, entry = .asked priority ask.1 question info ask.2) ∨
      ∃ event takeoverUid, entry = .reported priority event takeoverUid := by
  simp only [levelEntries, askedEntries, List.cons_append, List.mem_cons, List.mem_append, List.mem_map] at hentry
  obtain hentered | ⟨ask, hask, rfl⟩ | hreport := hentry
  · exact .inl hentered
  · exact .inr (.inl ⟨ask, hask, rfl⟩)
  · exact .inr (.inr (hreports entry hreport))

theorem priority_levelEntries {entry : Entry} (hentry : entry ∈ levelEntries question info priority asks reports) :
    entry.priority = priority := by
  obtain rfl | ⟨ask, -, rfl⟩ | ⟨event, takeoverUid, rfl⟩ := mem_levelEntries hreports hentry <;> rfl

theorem tookOver_levelEntries :
    (∃ entry ∈ levelEntries question info priority asks reports, entry.tookOver = true) ↔ asks.any Prod.snd = true := by
  rw [List.any_eq_true]
  constructor
  · rintro ⟨entry, hentry, htookOver⟩
    obtain rfl | ⟨ask, hask, rfl⟩ | ⟨event, takeoverUid, rfl⟩ := mem_levelEntries hreports hentry
    · cases htookOver
    · exact ⟨ask, hask, htookOver⟩
    · cases htookOver
  · rintro ⟨ask, hask, htookOver⟩
    refine ⟨.asked priority ask.1 question info ask.2, ?_, htookOver⟩
    simp only [levelEntries, askedEntries, List.cons_append, List.mem_cons, List.mem_append, List.mem_map]
    exact .inr (.inl ⟨ask, hask, rfl⟩)

theorem asked_levelEntries {priority' : Priority} {callback : Callback} {question' : Question} {info' : TakeOverInfo}
    {answer : Bool} :
    .asked priority' callback question' info' answer ∈ levelEntries question info priority asks reports ↔
      priority' = priority ∧ question' = question ∧ info' = info ∧ (callback, answer) ∈ asks := by
  constructor
  · intro hentry
    obtain heq | ⟨ask, hask, heq⟩ | ⟨event, takeoverUid, heq⟩ := mem_levelEntries hreports hentry
    · cases heq
    · cases heq
      exact ⟨rfl, rfl, rfl, hask⟩
    · cases heq
  · rintro ⟨rfl, rfl, rfl, hask⟩
    simp only [levelEntries, askedEntries, List.cons_append, List.mem_cons, List.mem_append, List.mem_map]
    exact .inr (.inl ⟨_, hask, rfl⟩)

theorem entered_levelEntries {priority' : Priority} :
    .entered priority' ∈ levelEntries question info priority asks reports ↔ priority' = priority := by
  constructor
  · intro hentered
    exact priority_levelEntries hreports hentered
  · rintro rfl
    exact List.mem_cons_self ..

/-- Those who are asked, when the clients of the level are the registered callbacks. -/
theorem exists_asked_levelEntries
    (hasks : asks.map Prod.fst = (holder.callbacks priority).toList.filter clients.castable) {priority' : Priority}
    {callback : Callback} :
    (∃ answer, .asked priority' callback question info answer ∈ levelEntries question info priority asks reports) ↔
      .entered priority' ∈ levelEntries question info priority asks reports ∧
        callback ∈ holder.callbacks priority' ∧ clients.castable callback = true := by
  have hclients : (∃ answer, (callback, answer) ∈ asks) ↔
      callback ∈ holder.callbacks priority ∧ clients.castable callback = true := by
    have hfilter : callback ∈ asks.map Prod.fst ↔
        callback ∈ (holder.callbacks priority).toList.filter clients.castable := by rw [hasks]
    rw [List.mem_filter, Std.TreeSet.mem_toList] at hfilter
    rw [← hfilter]
    simp
  rw [entered_levelEntries hreports]
  constructor
  · rintro ⟨answer, hasked⟩
    obtain ⟨rfl, -, -, hask⟩ := (asked_levelEntries hreports).mp hasked
    exact ⟨rfl, hclients.mp ⟨answer, hask⟩⟩
  · rintro ⟨rfl, hregistered⟩
    obtain ⟨answer, hask⟩ := hclients.mpr hregistered
    exact ⟨answer, (asked_levelEntries hreports).mpr ⟨rfl, rfl, rfl, hask⟩⟩

theorem client_levelEntries :
    (levelEntries question info priority asks reports).filterMap Entry.client? =
      (asks.map Prod.fst).map fun callback => (priority, callback) := by
  have hnone : reports.filterMap Entry.client? = [] := by
    rw [List.filterMap_eq_nil_iff]
    intro entry hentry
    obtain ⟨event, takeoverUid, rfl⟩ := hreports entry hentry
    rfl
  have hasked : (askedEntries question info priority asks).filterMap Entry.client? =
      (asks.map Prod.fst).map fun callback => (priority, callback) := by
    induction asks with
    | nil => rfl
    | cons ask asks ih => simpa [askedEntries, Entry.client?] using ih
  rw [levelEntries, List.cons_append, List.filterMap_cons_none (by rfl), List.filterMap_append, hasked, hnone,
    List.append_nil]

end Entries

variable (clients holder question info priority) in
/-- Consulting one level. -/
theorem level_consultation (before : List Entry) :
    ∃ trace isTakeover, triggerInner clients holder question info priority before = (isTakeover, before ++ trace) ∧
      Consultation clients holder question info [priority] before trace isTakeover := by
  obtain ⟨asks, takeoverUid, hinner, hasks, hanswered⟩ := triggerInner_eq clients holder question info priority before
  have hreports : ∀ entry ∈ reportEntries clients question priority (asks.any Prod.snd) takeoverUid,
      ∃ event uid, entry = .reported priority event uid :=
    fun entry hentry => ⟨_, _, mem_reportEntries hentry⟩
  refine ⟨levelEntries question info priority asks _, asks.any Prod.snd, hinner, ?_⟩
  constructor
  case takeover_iff => exact (tookOver_levelEntries hreports).symm
  case entered_iff =>
    intro priority' hmem
    rw [entered_levelEntries hreports]
    constructor
    · rintro rfl entry hentry -
      rw [priority_levelEntries hreports hentry]
      exact Nat.lt_irrefl _
    · intro _
      exact List.mem_singleton.mp hmem
  case asked_iff =>
    intro priority' callback
    exact exists_asked_levelEntries hreports hasks
  case question =>
    intro priority' callback question' info' answer hasked
    obtain ⟨-, hquestion, hinfo, -⟩ := (asked_levelEntries hreports).mp hasked
    exact ⟨hquestion, hinfo⟩
  case once =>
    rw [client_levelEntries hreports, hasks]
    have hnodup := Lib.TreeMap.nodup_toList (holder.callbacks priority)
    exact (hnodup.filter _).map fun callback callback' heq => (Prod.mk.inj heq).2
  case answered =>
    have hlevel : Answered clients before [.entered priority] := answered_singleton rfl
    rw [levelEntries]
    apply answered_append (answered_append hlevel hanswered)
    apply answered_reportEntries
  case ordered =>
    apply List.pairwise_of_forall_mem_list
    intro entry hentry entry' hentry'
    rw [priority_levelEntries hreports hentry, priority_levelEntries hreports hentry']
  case levels =>
    intro entry hentry
    rw [List.mem_singleton]
    exact priority_levelEntries hreports hentry

end Level

/-! ## All levels -/

section Levels

variable {clients : Clients} {holder : Holder} {question : Question} {info : TakeOverInfo} {priority : Priority}
  {priorities : List Priority} {before trace trace' : List Entry} {isTakeover : Bool}

theorem client_priority {entry : Entry} {client : Priority × Callback} (h : entry.client? = some client) :
    entry.priority = client.1 := by
  cases entry with
  | asked priority callback question info answer =>
    simp only [Entry.client?, Option.some.injEq] at h
    rw [← h]
    rfl
  | entered priority => simp [Entry.client?] at h
  | reported priority event takeoverUid => simp [Entry.client?] at h

theorem consultation_nil : Consultation clients holder question info [] before [] false where
  takeover_iff := by simp
  entered_iff := by simp
  asked_iff := by simp
  question := by simp
  once := by simp
  answered := trivial
  ordered := .nil
  levels := by simp

section Single

variable (h : Consultation clients holder question info [priority] before trace isTakeover)

include h

theorem Consultation.priority_eq {entry : Entry} (hentry : entry ∈ trace) : entry.priority = priority :=
  List.mem_singleton.mp (h.levels entry hentry)

theorem Consultation.not_entered {lower : Priority} (hrank : priority.rank < lower.rank) :
    Entry.entered lower ∉ trace := by
  intro hentered
  have hsame : lower = priority := h.priority_eq hentered
  rw [hsame] at hrank
  exact Nat.lt_irrefl _ hrank

end Single

/-- After a take-over the levels below are left alone. -/
theorem Consultation.stop (h : Consultation clients holder question info [priority] before trace true)
    (hbelow : ∀ lower ∈ priorities, priority.rank < lower.rank) :
    Consultation clients holder question info (priority :: priorities) before trace true where
  takeover_iff := h.takeover_iff
  entered_iff := by
    intro priority' hmem
    rw [List.mem_cons] at hmem
    obtain rfl | hlower := hmem
    · exact h.entered_iff priority' (by simp)
    · have hrank := hbelow priority' hlower
      constructor
      · intro hentered
        exact absurd hentered (h.not_entered hrank)
      · intro hnobody
        obtain ⟨entry, hentry, htookOver⟩ := h.takeover_iff.mp rfl
        have hnot := hnobody entry hentry htookOver
        rw [h.priority_eq hentry] at hnot
        exact absurd hrank hnot
  asked_iff := h.asked_iff
  question := h.question
  once := h.once
  answered := h.answered
  ordered := h.ordered
  levels entry hentry := by
    rw [h.priority_eq hentry]
    exact List.mem_cons_self ..

section Continue

variable (h : Consultation clients holder question info [priority] before trace false)
  (h' : Consultation clients holder question info priorities (before ++ trace) trace' isTakeover)
  (hbelow : ∀ lower ∈ priorities, priority.rank < lower.rank)

include h

theorem Consultation.nobody {entry : Entry} (hentry : entry ∈ trace) : entry.tookOver ≠ true := by
  intro htookOver
  have htrue := h.takeover_iff.mpr ⟨entry, hentry, htookOver⟩
  cases htrue

/-- Who took over is found in what comes after. -/
theorem Consultation.forall_tookOver {p : Entry → Prop} :
    (∀ entry ∈ trace ++ trace', entry.tookOver = true → p entry) ↔ ∀ entry ∈ trace', entry.tookOver = true → p entry := by
  rw [List.forall_mem_append]
  constructor
  · intro hall
    exact hall.2
  · intro hall
    exact ⟨fun entry hentry htookOver => absurd htookOver (h.nobody hentry), hall⟩

include h' hbelow

/-- The level itself is entered in any case, a lower one as before. -/
theorem Consultation.entered_continue {priority' : Priority} (hmem : priority' ∈ priority :: priorities) :
    .entered priority' ∈ trace ++ trace' ↔
      ∀ entry ∈ trace ++ trace', entry.tookOver = true → ¬ entry.priority.rank < priority'.rank := by
  rw [h.forall_tookOver, List.mem_append]
  rw [List.mem_cons] at hmem
  obtain rfl | hlower := hmem
  · have hentered : .entered priority' ∈ trace :=
      (h.entered_iff priority' (by simp)).mpr fun entry hentry htookOver => absurd htookOver (h.nobody hentry)
    constructor
    · intro _ entry hentry _
      have hrank := hbelow _ (h'.levels entry hentry)
      omega
    · intro _
      exact .inl hentered
  · rw [or_iff_right (h.not_entered (hbelow priority' hlower))]
    exact h'.entered_iff priority' hlower

theorem Consultation.once_continue : ((trace ++ trace').filterMap Entry.client?).Nodup := by
  rw [List.filterMap_append, List.nodup_append]
  refine ⟨h.once, h'.once, fun client hclient client' hclient' heq => ?_⟩
  rw [List.mem_filterMap] at hclient hclient'
  obtain ⟨entry, hentry, hsome⟩ := hclient
  obtain ⟨entry', hentry', hsome'⟩ := hclient'
  have hrank := hbelow _ (h'.levels entry' hentry')
  rw [← h.priority_eq hentry, client_priority hsome, client_priority hsome', heq] at hrank
  exact Nat.lt_irrefl _ hrank

/-- A level in which nobody takes over, and what is done below it. -/
theorem Consultation.continue :
    Consultation clients holder question info (priority :: priorities) before (trace ++ trace') isTakeover := by
  constructor
  case takeover_iff =>
    rw [h'.takeover_iff]
    constructor
    · rintro ⟨entry, hentry, htookOver⟩
      exact ⟨entry, List.mem_append_right _ hentry, htookOver⟩
    · rintro ⟨entry, hentry, htookOver⟩
      rw [List.mem_append] at hentry
      exact ⟨entry, hentry.resolve_left fun hlevel => h.nobody hlevel htookOver, htookOver⟩
  case entered_iff =>
    intro priority' hmem
    exact h.entered_continue h' hbelow hmem
  case asked_iff =>
    intro priority' callback
    simp only [List.mem_append, exists_or, h.asked_iff, h'.asked_iff]
    tauto
  case question =>
    intro priority' callback question' info' answer hasked
    rw [List.mem_append] at hasked
    obtain hasked | hasked := hasked
    · exact h.question _ _ _ _ _ hasked
    · exact h'.question _ _ _ _ _ hasked
  case once => exact h.once_continue h' hbelow
  case answered => exact answered_append h.answered h'.answered
  case ordered =>
    rw [List.pairwise_append]
    refine ⟨h.ordered, h'.ordered, fun entry hentry entry' hentry' => ?_⟩
    rw [h.priority_eq hentry]
    exact Nat.le_of_lt (hbelow _ (h'.levels entry' hentry'))
  case levels =>
    intro entry hentry
    rw [List.mem_append] at hentry
    obtain hentry | hentry := hentry
    · rw [h.priority_eq hentry]
      exact List.mem_cons_self ..
    · exact List.mem_cons_of_mem _ (h'.levels entry hentry)

end Continue

/-- The cascade over levels in their order is a consultation of them. -/
theorem trigger_consultation (hordered : priorities.Pairwise fun higher lower => higher.rank < lower.rank)
    (before : List Entry) :
    ∃ trace isTakeover, trigger clients holder question info priorities before = (isTakeover, before ++ trace) ∧
      Consultation clients holder question info priorities before trace isTakeover := by
  induction priorities generalizing before with
  | nil => exact ⟨[], false, by simp [trigger], consultation_nil⟩
  | cons priority priorities ih =>
    obtain ⟨hbelow, hrest⟩ := List.pairwise_cons.mp hordered
    obtain ⟨trace, isTakeover, hinner, hlevel⟩ := level_consultation clients holder question info priority before
    cases isTakeover with
    | true => exact ⟨trace, true, by simp [trigger, hinner], hlevel.stop hbelow⟩
    | false =>
      obtain ⟨trace', isTakeover', htrigger, hlower⟩ := ih hrest (before ++ trace)
      refine ⟨trace ++ trace', isTakeover', ?_, hlevel.continue hlower hbelow⟩
      simp [trigger, hinner, htrigger]

end Levels

/-! ## A call -/

structure Controller where
  started : Bool
  takeoverShutdownCallbackHolder : Holder
  asyncShutdownCallbackHolder : Holder
  syncShutdownCallbackHolder : Holder

/-- What a call meets. -/
structure Env where
  -- `POWER_MANAGER_ENABLE_JUDGING_TAKEOVER_SHUTDOWN`
  judging : Bool
  clients : Clients
  syncCastable : Callback → Bool
  asyncCastable : Callback → Bool
  -- the result of `SetScreenPowerForAll`
  screensOff : Bool
  -- whether there is a `devicePowerAction_`
  devicePowerAction : Bool
  -- the readings of `GetCurrentRealTimeMs`, one after the other
  realTimeMs : Nat → Nat

inductive Effect where
  | takeOver (entry : Entry)
  -- `SetFrameworkFinishBootStage`
  | setShutStage
  | reportDoShutdown
  | setParameter (key value : String)
  | publishShutdownEvent
  | syncCallback (call : Call) (isReboot : Bool)
  | setScreenPowerOff
  | reportScreenFault
  | asyncCallback (call : Call) (isReboot : Bool)
  | deviceReboot (reason : String)
  | deviceShutdown (reason : String)
  deriving DecidableEq, Repr

/-- Everything but asking whether somebody takes over. -/
def Effect.isShutdown : Effect → Bool
  | .takeOver _ => false
  | _ => true

def Effect.entry? : Effect → Option Entry
  | .takeOver entry => some entry
  | _ => none

/-- `ShutdownController::SetShutdownReason`; the characters of a reason are single bytes. -/
def setShutdownReason (reason : String) : Effect :=
  .setParameter "persist.dfx.shutdown_reason"
    (if 95 < reason.length then String.ofList (reason.toList.take 95) else reason)

/-- `PowerEventType` as a number. -/
def eventType (isReboot : Bool) : String :=
  if isReboot then "1" else "2"

def deviceAction (reason : String) (isReboot : Bool) : Effect :=
  if isReboot then .deviceReboot reason else .deviceShutdown reason

section Steps

variable (env : Env) (reason : String) (isReboot : Bool)

/-- `ShutdownController::TriggerSyncShutdownCallback`. -/
def triggerSyncShutdownCallback (c : Controller) : List Effect :=
  ((c.syncShutdownCallbackHolder.round .shutdown).filter fun call => env.syncCastable call.callback).map
    fun call => .syncCallback call isReboot

/-- `ShutdownController::TriggerAsyncShutdownCallback`. -/
def triggerAsyncShutdownCallback (c : Controller) : List Effect :=
  ((c.asyncShutdownCallbackHolder.round .shutdown).filter fun call => env.asyncCastable call.callback).map
    fun call => .asyncCallback call isReboot

/-- `ShutdownController::TurnOffScreen`. -/
def turnOffScreen : List Effect :=
  .setScreenPowerOff :: if env.clients.reports && !env.screensOff then [.reportScreenFault] else []

/-- `ShutdownController::TakeOverShutdownAction`. -/
def takeOverShutdownAction (c : Controller) : Bool × List Entry :=
  if allowedToBeTakenOver env.judging reason then
    triggerTakeOverShutdownCallback env.clients c.takeoverShutdownCallbackHolder ⟨reason, isReboot⟩ []
  else (false, [])

/-- What a call does once it is not taken over, up to the detached thread.  With `force` the callbacks
and the screen are left to threads of their own, which are waited for. -/
def shutdownEffects (c : Controller) : List Effect :=
  (if env.clients.reports then [.reportDoShutdown] else []) ++
    [setShutdownReason reason, .publishShutdownEvent, .setParameter "persist.dfx.eventtype" (eventType isReboot)] ++
    triggerSyncShutdownCallback env isReboot c ++ turnOffScreen env ++
    [.setParameter "persist.dfx.shutdownactiontime"
      (toString (env.realTimeMs 0) ++ "," ++ toString (env.realTimeMs 1) ++ "," ++ toString (env.realTimeMs 2))]

/-- The detached thread. -/
def detachedThread (c : Controller) : Controller × List Effect :=
  ({ c with started := false },
    triggerAsyncShutdownCallback env isReboot c ++
      if env.devicePowerAction then
        [.setParameter "persist.dfx.shutdowncompletetime" (toString (env.realTimeMs 3)), deviceAction reason isReboot]
      else [])

/-- What a call returns, the controller then, what was done so far, and whether it has left the
detached thread behind. -/
structure Outcome where
  error : PowerErrors
  controller : Controller
  effects : List Effect
  detached : Bool

/-- `ShutdownController::RebootOrShutdown`. -/
def rebootOrShutdown (force : Bool) (c : Controller) : Outcome :=
  if c.started then ⟨.skipFunctionCall, c, [], false⟩
  else
    let c := { c with started := true }
    let (isTakeOver, asked) := if force then (false, []) else takeOverShutdownAction env reason isReboot c
    if isTakeOver then ⟨.ok, { c with started := false }, asked.map .takeOver, false⟩
    else
      let bootStage := if !force && reason ≠ "test_case" then [.setShutStage] else []
      ⟨.ok, c, asked.map .takeOver ++ bootStage ++ shutdownEffects env reason isReboot c, true⟩

/-- Everything a call does, with its detached thread. -/
def Outcome.allEffects (o : Outcome) : List Effect :=
  o.effects ++ if o.detached then (detachedThread env reason isReboot o.controller).2 else []

end Steps

/-- A call that is not forced shuts down exactly when nobody who is asked takes over.  Then it sets
the reason, publishes the event, calls the callbacks, turns off the screen and comes to the device;
taken over, it returns with nothing begun. -/
structure Decides (env : Env) (reason : String) (isReboot : Bool) (c : Controller) (o : Outcome)
    (effects : List Effect) : Prop where
  consulted : ∃ isTakeOver, if allowedToBeTakenOver env.judging reason then
      Consultation env.clients c.takeoverShutdownCallbackHolder .shutdown ⟨reason, isReboot⟩
        HolderKind.shutdown.order [] (effects.filterMap Effect.entry?) isTakeOver
    else effects.filterMap Effect.entry? = []
  shutdown_iff : (∃ effect ∈ effects, effect.isShutdown = true) ↔
    ∀ entry, .takeOver entry ∈ effects → entry.tookOver = false
  performed : (∀ entry, .takeOver entry ∈ effects → entry.tookOver = false) →
    setShutdownReason reason ∈ effects ∧ .publishShutdownEvent ∈ effects ∧ .setScreenPowerOff ∈ effects ∧
      (∀ effect ∈ triggerSyncShutdownCallback env isReboot c, effect ∈ effects) ∧
      (env.devicePowerAction = true → deviceAction reason isReboot ∈ effects)
  takenOver : (∃ entry, .takeOver entry ∈ effects ∧ entry.tookOver = true) →
    o.controller.started = false ∧ o.error = .ok

section Call

variable {env : Env} {reason : String} {isReboot : Bool} {c : Controller}

theorem shutdown_consultation (clients : Clients) (holder : Holder) (info : TakeOverInfo) (before : List Entry) :
    ∃ trace isTakeover, triggerTakeOverShutdownCallback clients holder info before = (isTakeover, before ++ trace) ∧
      Consultation clients holder .shutdown info HolderKind.shutdown.order before trace isTakeover :=
  trigger_consultation (by decide) before

theorem hibernate_consultation (clients : Clients) (holder : Holder) (info : TakeOverInfo) (before : List Entry) :
    ∃ trace isTakeover, triggerTakeOverHibernateCallback clients holder info before = (isTakeover, before ++ trace) ∧
      Consultation clients holder .hibernate info HolderKind.shutdown.order before trace isTakeover :=
  trigger_consultation (by decide) before

/-- The result of asking is whether somebody took over; where nobody may, nobody is asked. -/
theorem takeOverShutdownAction_eq (env : Env) (reason : String) (isReboot : Bool) (c : Controller) :
    ∃ isTakeOver asked, takeOverShutdownAction env reason isReboot c = (isTakeOver, asked) ∧
      (isTakeOver = true ↔ ∃ entry ∈ asked, entry.tookOver = true) ∧
      if allowedToBeTakenOver env.judging reason then
        Consultation env.clients c.takeoverShutdownCallbackHolder .shutdown ⟨reason, isReboot⟩
          HolderKind.shutdown.order [] asked isTakeOver
      else asked = [] := by
  unfold takeOverShutdownAction
  split
  next =>
    obtain ⟨trace, isTakeOver, htrigger, h⟩ :=
      shutdown_consultation env.clients c.takeoverShutdownCallbackHolder ⟨reason, isReboot⟩ []
    exact ⟨isTakeOver, trace, htrigger, h.takeover_iff, h⟩
  next => exact ⟨false, [], rfl, by simp, rfl⟩

theorem isShutdown_triggerSync : ∀ effect ∈ triggerSyncShutdownCallback env isReboot c, effect.isShutdown = true := by
  intro effect heffect
  obtain ⟨call, -, rfl⟩ := List.mem_map.mp heffect
  rfl

theorem isShutdown_shutdownEffects :
    ∀ effect ∈ shutdownEffects env reason isReboot c, effect.isShutdown = true := by
  have hreport : ∀ effect ∈ (if env.clients.reports then [Effect.reportDoShutdown] else []),
      effect.isShutdown = true := by
    split <;> simp [Effect.isShutdown]
  have hscreen : ∀ effect ∈ turnOffScreen env, effect.isShutdown = true := by
    unfold turnOffScreen
    split <;> simp [Effect.isShutdown]
  simp only [shutdownEffects, List.forall_mem_append]
  refine ⟨⟨⟨⟨hreport, ?_⟩, isShutdown_triggerSync⟩, hscreen⟩, ?_⟩
  · simp [setShutdownReason, Effect.isShutdown]
  · simp [Effect.isShutdown]

theorem isShutdown_detachedThread :
    ∀ effect ∈ (detachedThread env reason isReboot c).2, effect.isShutdown = true := by
  simp only [detachedThread, List.forall_mem_append]
  constructor
  · intro effect heffect
    obtain ⟨call, -, rfl⟩ := List.mem_map.mp heffect
    rfl
  · cases isReboot <;> split <;> simp [deviceAction, Effect.isShutdown]

/-- A call that is taken over has asked, and done nothing else. -/
theorem rebootOrShutdown_takenOver {asked : List Entry} (hstarted : c.started = false)
    (hasked : takeOverShutdownAction env reason isReboot { c with started := true } = (true, asked)) :
    rebootOrShutdown env reason isReboot false c =
      ⟨.ok, { c with started := false }, asked.map .takeOver, false⟩ := by
  simp [rebootOrShutdown, hstarted, hasked]

/-- A call that is not taken over goes on to the detached thread. -/
theorem rebootOrShutdown_performed {asked : List Entry} (hstarted : c.started = false)
    (hasked : takeOverShutdownAction env reason isReboot { c with started := true } = (false, asked)) :
    ∃ effects, (rebootOrShutdown env reason isReboot false c).allEffects env reason isReboot =
        asked.map .takeOver ++ effects ∧ (∀ effect ∈ effects, effect.isShutdown = true) ∧
      (∀ effect ∈ shutdownEffects env reason isReboot c, effect ∈ effects) ∧
      ∀ effect ∈ (detachedThread env reason isReboot c).2, effect ∈ effects := by
  let bootStage : List Effect := if reason ≠ "test_case" then [.setShutStage] else []
  have hboot : ∀ effect ∈ bootStage, effect.isShutdown = true := by
    simp only [bootStage]
    split <;> simp [Effect.isShutdown]
  refine ⟨bootStage ++ shutdownEffects env reason isReboot c ++ (detachedThread env reason isReboot c).2,
    ?_, ?_, ?_, ?_⟩
  · simp only [rebootOrShutdown, hstarted, hasked, Outcome.allEffects, bootStage, Bool.false_eq_true, if_false, if_true,
      Bool.not_false, Bool.true_and, decide_eq_true_eq, List.append_assoc]
    rfl
  · simp only [List.forall_mem_append]
    exact ⟨⟨hboot, isShutdown_shutdownEffects⟩, isShutdown_detachedThread⟩
  · intro effect heffect
    exact List.mem_append_left _ (List.mem_append_right _ heffect)
  · intro effect heffect
    exact List.mem_append_right _ heffect

theorem entries_map (asked : List Entry) : (asked.map Effect.takeOver).filterMap Effect.entry? = asked := by
  induction asked with
  | nil => rfl
  | cons entry asked ih => simpa [Effect.entry?] using ih

/-- What was asked can be read off everything that was done. -/
theorem entries_eq {asked : List Entry} {effects : List Effect} (h : ∀ effect ∈ effects, effect.isShutdown = true) :
    (asked.map Effect.takeOver ++ effects).filterMap Effect.entry? = asked := by
  have hrest : effects.filterMap Effect.entry? = [] := by
    rw [List.filterMap_eq_nil_iff]
    intro effect heffect
    have hshutdown := h effect heffect
    cases effect with
    | takeOver entry => cases hshutdown
    | _ => rfl
  rw [List.filterMap_append, entries_map, hrest, List.append_nil]

theorem mem_map_takeOver {asked : List Entry} {entry : Entry} :
    Effect.takeOver entry ∈ asked.map Effect.takeOver ↔ entry ∈ asked := by
  simp

theorem decides_of_not_started (hstarted : c.started = false) :
    Decides env reason isReboot c (rebootOrShutdown env reason isReboot false c)
      ((rebootOrShutdown env reason isReboot false c).allEffects env reason isReboot) := by
  obtain ⟨isTakeOver, asked, hasked, htakeOver, hconsulted⟩ :=
    takeOverShutdownAction_eq env reason isReboot { c with started := true }
  cases isTakeOver with
  | true =>
    obtain ⟨entry, hentry, htookOver⟩ := htakeOver.mp rfl
    rw [rebootOrShutdown_takenOver hstarted hasked]
    have hall : (⟨.ok, { c with started := false }, asked.map .takeOver, false⟩ : Outcome).allEffects env reason
        isReboot = asked.map .takeOver := by
      simp [Outcome.allEffects]
    rw [hall]
    have hsomebody : ¬ ∀ entry, Effect.takeOver entry ∈ asked.map Effect.takeOver → entry.tookOver = false := by
      intro hnobody
      rw [hnobody entry (mem_map_takeOver.mpr hentry)] at htookOver
      cases htookOver
    refine ⟨⟨true, by rwa [entries_map]⟩, ⟨fun ⟨effect, heffect, hshutdown⟩ => ?_, fun hnobody => ?_⟩,
      fun hnobody => absurd hnobody hsomebody, fun _ => ⟨rfl, rfl⟩⟩
    · obtain ⟨asking, -, rfl⟩ := List.mem_map.mp heffect
      cases hshutdown
    · exact absurd hnobody hsomebody
  | false =>
    obtain ⟨effects, hall, hshutdown, hcall, hdetached⟩ := rebootOrShutdown_performed hstarted hasked
    have hnobody : ∀ entry, Effect.takeOver entry ∈
        (rebootOrShutdown env reason isReboot false c).allEffects env reason isReboot → entry.tookOver = false := by
      intro entry hentry
      rw [hall, List.mem_append, mem_map_takeOver] at hentry
      obtain hentry | hentry := hentry
      · cases htookOver : entry.tookOver with
        | false => rfl
        | true => exact absurd (htakeOver.mpr ⟨entry, hentry, htookOver⟩) (by decide)
      · have hnot := hshutdown _ hentry
        cases hnot
    have hmem : ∀ effect ∈ effects,
        effect ∈ (rebootOrShutdown env reason isReboot false c).allEffects env reason isReboot := by
      intro effect heffect
      rw [hall]
      exact List.mem_append_right _ heffect
    have hreason : setShutdownReason reason ∈ effects := hcall _ (by simp [shutdownEffects])
    refine ⟨⟨false, by rwa [hall, entries_eq hshutdown]⟩, ⟨fun _ => hnobody, fun _ => ?_⟩, fun _ => ?_, ?_⟩
    · exact ⟨_, hmem _ hreason, hshutdown _ hreason⟩
    · refine ⟨hmem _ hreason, hmem _ (hcall _ ?_), hmem _ (hcall _ ?_), fun effect heffect => hmem _ (hcall _ ?_),
        fun hdevice => hmem _ (hdetached _ ?_)⟩
      · simp [shutdownEffects]
      · simp [shutdownEffects, turnOffScreen]
      · simp [shutdownEffects, heffect]
      · simp [detachedThread, hdevice]
    · rintro ⟨entry, hentry, htookOver⟩
      rw [hnobody entry hentry] at htookOver
      cases htookOver

end Call

end PowerMgr.Shutdown.TakeOver
