import Std.Data.TreeMap
import Mathlib.Tactic.Common
import PowerMgr.Lib.System
import PowerMgr.Lib.TreeMap
import PowerMgr.Lib.WakeupCount

/-! # The running-lock hub and the auto-suspend thread

Clients take and give back locks by name.  `RunningLockHub` passes them to the kernel, counts them by name
and tells `SuspendController`, in three critical sections.  The thread of `AutoSuspend` reads the kernel's
count of wakeup events, waits until no lock is counted, writes the count back and puts the device to sleep;
after a failure it begins again.

* `State`, `next` — the hub, the thread and the kernel, cut at the critical sections and system calls.
* `Careful` — clients give back what they have taken, the files can be written, and nobody else puts the
  device to sleep between the thread's last two steps.
* `sleeps_without_locks` — the thread passes its wait when no call of `Acquire` that has returned is still
  to be released, and puts the device to sleep only if none has begun since it read the count.
* `Apart` — nobody takes a lock under a name that is taken.  Then nobody holds one when the device sleeps.
-/

namespace PowerMgr.Suspend.RunningLockHub

open Std (TreeMap)
open Lib (WakeupCount)
open Lib.TreeMap (getElem?_insert_eq getElem?_erase_eq)

/-- Where the thread of `AutoSuspendLoop` stands. -/
inductive Loop where
  | none
  -- in `sleep_for`
  | sleeping
  -- in `WaitWakeupCount`
  | reading
  -- in `WaitingSuspendCondition`, and after it
  | counted (wakeupCount : Nat)
  | waited (wakeupCount : Nat)
  -- before `SuspendEnter`
  | written
  deriving DecidableEq, Repr

structure State where
  kernel : WakeupCount String := {}
  runningLockMap : TreeMap String UInt32 := ∅
  suspendBlockCounter : UInt32 := 0
  started : Bool := false
  -- `Start` has made the thread and has not set `started_`.
  marking : Bool := false
  loop : Loop := .none
  aborted : Bool := false
  -- Kept for the statements: the names in calls of `Acquire`, those of locks held, the calls of `Release`
  -- between their two critical sections, the calls of `Acquire` begun since the thread read the count and
  -- returned since it passed its wait, and how often it put the device to sleep.
  acquiring : List String := []
  held : List String := []
  releasing : Nat := 0
  begun : Nat := 0
  returned : Nat := 0
  sleeps : Nat := 0

inductive Event where
  | acquire (name : String) (ok : Bool)
  | incSuspendBlockCounter (name : String)
  | release (name : String) (ok : Bool)
  | decSuspendBlockCounter
  | start
  | mark
  | stop
  | wake
  | read (ok : Bool)
  | wait
  | write
  | enter (ok : Bool)
  | force (ok : Bool)
  -- Events of drivers, begun and finished.
  | wakeupBegin
  | wakeupEnd
  deriving DecidableEq, Repr

/-! ## The functions -/

/-- `RunningLockHub::Acquire` under `mutex_`; `ok` says whether the lock file could be written. -/
def acquire (name : String) (ok : Bool) (s : State) : State :=
  { s with
    kernel := if ok then s.kernel.lock name else s.kernel
    runningLockMap := s.runningLockMap.insert name (s.runningLockMap[name]?.getD 0 + 1)
    acquiring := name :: s.acquiring
    begun := s.begun + 1 }

/-- `RunningLockHub::Release` under `mutex_`.  The name is given back to the kernel whoever else uses it;
a name that is not counted ends the call. -/
def release (name : String) (ok : Bool) (s : State) : State :=
  let s := { s with kernel := if ok then s.kernel.unlock name else s.kernel, held := s.held.erase name }
  match s.runningLockMap[name]? with
  | none => s
  | some count => { s with
      runningLockMap :=
        if count - 1 = 0 then s.runningLockMap.erase name else s.runningLockMap.insert name (count - 1)
      releasing := s.releasing + 1 }

def incSuspendBlockCounter (name : String) (s : State) : State :=
  { s with
    suspendBlockCounter := s.suspendBlockCounter + 1
    acquiring := s.acquiring.erase name
    held := name :: s.held
    returned := s.returned + 1 }

def decSuspendBlockCounter (s : State) : State :=
  { s with suspendBlockCounter := s.suspendBlockCounter - 1, releasing := s.releasing - 1 }

/-- `AutoSuspend::Start` up to the thread. -/
def start (s : State) : State :=
  if s.started then s else { s with loop := .sleeping, marking := true }

/-- `AutoSuspend::Stop`.  The thread is detached, so that `join` throws and nothing catches it. -/
def stop (s : State) : State :=
  if s.started then { s with started := false, aborted := true } else s

/-- `AutoSuspend::SuspendEnter`. -/
def suspendEnter (ok : Bool) (k : WakeupCount String) : WakeupCount String × Bool :=
  if ok then k.suspend else (k, false)

def step (s : State) : Event → Option State
  | .acquire name ok => some (acquire name ok s)
  | .incSuspendBlockCounter name =>
    if name ∈ s.acquiring then some (incSuspendBlockCounter name s) else none
  | .release name ok => some (release name ok s)
  | .decSuspendBlockCounter => if 0 < s.releasing then some (decSuspendBlockCounter s) else none
  | .start => some (start s)
  | .mark => if s.marking then some { s with started := true, marking := false } else none
  | .stop => some (stop s)
  | .wake =>
    if s.loop = .sleeping then
      if s.started then some { s with loop := .reading } else some { s with loop := .none, started := false }
    else none
  | .read ok =>
    if s.loop = .reading then
      if ok then s.kernel.read?.map fun wakeupCount => { s with loop := .counted wakeupCount, begun := 0 }
      else some { s with loop := .sleeping }
    else none
  | .wait =>
    match s.loop with
    | .counted wakeupCount =>
      if s.suspendBlockCounter = 0 then some { s with loop := .waited wakeupCount, returned := 0 } else none
    | _ => none
  | .write =>
    match s.loop with
    | .waited wakeupCount =>
      some { s with
        kernel := (s.kernel.write wakeupCount).1
        loop := if (s.kernel.write wakeupCount).2 then .written else .sleeping }
    | _ => none
  | .enter ok =>
    if s.loop = .written then some { s with
      kernel := (suspendEnter ok s.kernel).1
      loop := .none
      started := false
      sleeps := if (suspendEnter ok s.kernel).2 then s.sleeps + 1 else s.sleeps }
    else none
  | .force ok => some { s with kernel := (suspendEnter ok s.kernel).1 }
  | .wakeupBegin => some { s with kernel := s.kernel.begin }
  | .wakeupEnd => some { s with kernel := s.kernel.finish }

def next (s : State) (event : Event) : Option State :=
  if s.aborted then none else step s event

def system : Lib.System State Event where
  init := (· = {})
  next := next

/-- Of one step: the lock file is written, at most `2 ^ 32 - 2` calls and locks are there, a client releases
a lock it holds, `Start` is called once at a time, and `Suspend` is not forced before `SuspendEnter`. -/
def Careful (s : State) : Event → Prop
  | .acquire _ ok => ok = true ∧ s.acquiring.length + s.held.length + s.releasing + 1 < 2 ^ 32
  | .release name _ => name ∈ s.held
  | .start => s.marking = false
  | .force _ => s.loop ≠ .written
  | _ => True

/-- Names are not shared. -/
def Apart (s : State) : Event → Prop
  | .acquire name _ => name ∉ s.acquiring ++ s.held
  | .release _ ok => ok = true
  | _ => True

instance (s : State) (event : Event) : Decidable (Careful s event) :=
  match event with
  | .acquire _ _ => inferInstanceAs (Decidable (_ ∧ _))
  | .release _ _ => inferInstanceAs (Decidable (_ ∈ _))
  | .start => inferInstanceAs (Decidable (_ = _))
  | .force _ => inferInstanceAs (Decidable (_ ≠ _))
  | .incSuspendBlockCounter _ | .decSuspendBlockCounter | .mark | .stop | .wake | .read _ | .wait | .write | .enter _
  | .wakeupBegin | .wakeupEnd => .isTrue trivial

instance (s : State) (event : Event) : Decidable (Apart s event) :=
  match event with
  | .acquire _ _ => inferInstanceAs (Decidable (_ ∉ _))
  | .release _ _ => inferInstanceAs (Decidable (_ = _))
  | .incSuspendBlockCounter _ | .decSuspendBlockCounter | .start | .mark | .stop | .wake | .read _ | .wait | .write
  | .enter _ | .force _ | .wakeupBegin | .wakeupEnd => .isTrue trivial

/-! ## The counts -/

def names (s : State) : List String :=
  s.acquiring ++ s.held

/-- The hub counts the names, the controller the locks; the locks and calls are few enough to be counted. -/
structure Counted (s : State) : Prop where
  map : ∀ name, s.runningLockMap[name]?.map UInt32.toNat =
    if (names s).count name = 0 then none else some ((names s).count name)
  counter : s.suspendBlockCounter.toNat = s.held.length + s.releasing
  room : s.acquiring.length + s.held.length + s.releasing < 2 ^ 32

section Steps

variable {s s' : State}

theorem Counted.keep (h : Counted s) (hmap : s'.runningLockMap = s.runningLockMap)
    (hcounter : s'.suspendBlockCounter = s.suspendBlockCounter) (hacquiring : s'.acquiring = s.acquiring)
    (hheld : s'.held = s.held) (hreleasing : s'.releasing = s.releasing) : Counted s' := by
  have hnames : names s' = names s := by rw [names, names, hacquiring, hheld]
  refine ⟨fun name => ?_, ?_, ?_⟩
  · rw [hmap, hnames]
    exact h.map name
  · rw [hcounter, hheld, hreleasing]
    exact h.counter
  · rw [hacquiring, hheld, hreleasing]
    exact h.room

/-- What the hub has noted for a name. -/
theorem Counted.noted (h : Counted s) (name : String) :
    (s.runningLockMap[name]?.getD 0).toNat = (names s).count name := by
  have hmap := h.map name
  cases hfound : s.runningLockMap[name]? with
  | none =>
    rw [hfound, Option.map_none] at hmap
    split at hmap
    next hzero => rw [hzero]; rfl
    next => cases hmap
  | some count =>
    rw [hfound, Option.map_some] at hmap
    split at hmap
    next => cases hmap
    next => exact Option.some.inj hmap

theorem toNat_succ {count : UInt32} {n : Nat} (hcount : count.toNat = n) (hroom : n + 1 < 2 ^ 32) :
    (count + 1).toNat = n + 1 := by
  rw [UInt32.toNat_add, hcount]
  exact Nat.mod_eq_of_lt hroom

theorem toNat_pred {count : UInt32} {n : Nat} (hcount : count.toNat = n + 1) : (count - 1).toNat = n := by
  have hle : (1 : UInt32) ≤ count := by
    rw [UInt32.le_iff_toNat_le, hcount]
    exact Nat.succ_le_succ (Nat.zero_le n)
  rw [UInt32.toNat_sub_of_le _ _ hle, hcount]
  rfl

theorem count_names_le (s : State) (name : String) : (names s).count name ≤ s.acquiring.length + s.held.length := by
  rw [← List.length_append]
  exact List.count_le_length

theorem counted_acquire {name : String} {ok : Bool} (h : Counted s) (hcareful : Careful s (.acquire name ok)) :
    Counted (acquire name ok s) := by
  have hroom : s.acquiring.length + s.held.length + s.releasing + 1 < 2 ^ 32 := hcareful.2
  refine ⟨fun other => ?_, h.counter, ?_⟩
  · have hnames : names (acquire name ok s) = name :: names s := rfl
    rw [hnames]
    show (s.runningLockMap.insert name _)[other]?.map UInt32.toNat = _
    rw [getElem?_insert_eq]
    by_cases hother : name = other
    · subst hother
      have hle := count_names_le s name
      have hnext : (s.runningLockMap[name]?.getD 0 + 1).toNat = (names s).count name + 1 :=
        toNat_succ (h.noted name) (by omega)
      simp [hnext]
    · rw [if_neg hother, List.count_cons_of_ne hother]
      exact h.map other
  · show s.acquiring.length + 1 + s.held.length + s.releasing < 2 ^ 32
    omega

theorem counted_inc {name : String} (h : Counted s) (hmem : name ∈ s.acquiring) :
    Counted (incSuspendBlockCounter name s) := by
  have hperm : (names (incSuspendBlockCounter name s)).Perm (names s) :=
    List.perm_middle.trans ((List.perm_cons_erase hmem).symm.append_right s.held)
  have hlength : (s.acquiring.erase name).length + 1 = s.acquiring.length := by
    rw [List.length_erase_of_mem hmem]
    have := List.length_pos_of_mem hmem
    omega
  have hroom := h.room
  refine ⟨fun other => ?_, ?_, ?_⟩
  · rw [hperm.count_eq]
    exact h.map other
  · have hnext := toNat_succ h.counter (by omega)
    show (s.suspendBlockCounter + 1).toNat = s.held.length + 1 + s.releasing
    omega
  · show (s.acquiring.erase name).length + (s.held.length + 1) + s.releasing < 2 ^ 32
    omega

/-- A name that is released has been counted. -/
theorem Counted.found (h : Counted s) {name : String} (hmem : name ∈ s.held) :
    ∃ count n, s.runningLockMap[name]? = some count ∧ count.toNat = n + 1 ∧ (names s).count name = n + 1 := by
  have hpos : 0 < (names s).count name := List.count_pos_iff.mpr (List.mem_append_right _ hmem)
  obtain ⟨n, hn⟩ := Nat.exists_eq_add_of_lt hpos
  have hmap := h.map name
  rw [if_neg (Nat.ne_of_gt hpos)] at hmap
  obtain ⟨count, hfound, hcount⟩ := Option.map_eq_some_iff.mp hmap
  exact ⟨count, n, hfound, by omega, by omega⟩

theorem release_of_held {name : String} (ok : Bool) (h : Counted s) (hmem : name ∈ s.held) :
    ∃ map, release name ok s = { s with
        kernel := if ok then s.kernel.unlock name else s.kernel
        held := s.held.erase name
        runningLockMap := map
        releasing := s.releasing + 1 } ∧
      ∀ other, map[other]?.map UInt32.toNat = if name = other then
        (if (names s).count name = 1 then none else some ((names s).count name - 1))
        else s.runningLockMap[other]?.map UInt32.toNat := by
  obtain ⟨count, n, hfound, hcount, hnames⟩ := h.found hmem
  have hpred := toNat_pred hcount
  refine ⟨if count - 1 = 0 then s.runningLockMap.erase name else s.runningLockMap.insert name (count - 1), ?_,
    fun other => ?_⟩
  · simp [release, hfound]
  · rw [hnames]
    by_cases hzero : n = 0
    · have hlast : count - 1 = 0 := UInt32.toNat_inj.mp (hpred.trans hzero)
      rw [if_pos hlast, getElem?_erase_eq, if_pos (by omega : n + 1 = 1)]
      split <;> rfl
    · have hmore : count - 1 ≠ 0 := fun hlast => hzero (hpred.symm.trans (by rw [hlast]; rfl))
      rw [if_neg hmore, getElem?_insert_eq, if_neg (by omega : ¬n + 1 = 1)]
      split
      · simp [hpred]
      · rfl

theorem counted_release {name : String} {ok : Bool} (h : Counted s) (hmem : name ∈ s.held) :
    Counted (release name ok s) := by
  obtain ⟨map, heq, hmap⟩ := release_of_held ok h hmem
  have hlength : (s.held.erase name).length + 1 = s.held.length := by
    rw [List.length_erase_of_mem hmem]
    have := List.length_pos_of_mem hmem
    omega
  have hroom := h.room
  have hcounter := h.counter
  rw [heq]
  refine ⟨fun other => ?_, ?_, ?_⟩
  · rw [hmap other]
    have hperm : (names s).Perm (name :: (s.acquiring ++ s.held.erase name)) :=
      ((List.perm_cons_erase hmem).append_left s.acquiring).trans List.perm_middle
    by_cases hother : name = other
    · subst hother
      have hcount : (names s).count name = (s.acquiring ++ s.held.erase name).count name + 1 := by
        rw [hperm.count_eq, List.count_cons_self]
      rw [if_pos rfl, hcount, Nat.add_sub_cancel]
      simp only [Nat.add_eq_right]
      rfl
    · have hcount : (names s).count other = (s.acquiring ++ s.held.erase name).count other := by
        rw [hperm.count_eq, List.count_cons_of_ne hother]
      rw [if_neg hother, h.map other, hcount]
      rfl
  · show s.suspendBlockCounter.toNat = (s.held.erase name).length + (s.releasing + 1)
    omega
  · show s.acquiring.length + (s.held.erase name).length + (s.releasing + 1) < 2 ^ 32
    omega

theorem counted_dec (h : Counted s) (hpos : 0 < s.releasing) : Counted (decSuspendBlockCounter s) := by
  have hroom := h.room
  have hcounter := h.counter
  refine ⟨h.map, ?_, ?_⟩
  · have hnext : (s.suspendBlockCounter - 1).toNat = s.held.length + (s.releasing - 1) := toNat_pred (by omega)
    exact hnext
  · show s.acquiring.length + s.held.length + (s.releasing - 1) < 2 ^ 32
    omega

/-! ## What the thread knows -/

/-- Since the thread read the count, each call of `Acquire` that began has left its mark in the kernel. -/
def Marked (n : Nat) (s : State) : Prop :=
  n ≤ s.kernel.registered ∧ (0 < s.begun → s.kernel.Touched n)

def Seen (s : State) : Prop :=
  match s.loop with
  | .counted n => Marked n s
  | .waited n => Marked n s ∧ s.held.length ≤ s.returned
  | .written => (∃ n, s.kernel.saved = some n ∧ Marked n s) ∧ s.held.length ≤ s.returned
  | _ => True

/-- A step that leaves the thread where it is. -/
theorem Seen.keep (h : Seen s) (hloop : s'.loop = s.loop) (hsaved : s.loop = .written → s'.kernel.saved = s.kernel.saved)
    (hmarked : ∀ n, Marked n s → Marked n s') (hheld : s.held.length ≤ s.returned → s'.held.length ≤ s'.returned) :
    Seen s' := by
  unfold Seen at h ⊢
  rw [hloop]
  cases hplace : s.loop with
  | none | sleeping | reading => trivial
  | counted n =>
    simp only [hplace] at h ⊢
    exact hmarked n h
  | waited n =>
    simp only [hplace] at h ⊢
    exact ⟨hmarked n h.1, hheld h.2⟩
  | written =>
    simp only [hplace] at h ⊢
    obtain ⟨⟨n, hcount, hmark⟩, hfew⟩ := h
    exact ⟨⟨n, (hsaved hplace).trans hcount, hmarked n hmark⟩, hheld hfew⟩

theorem saved_lock (name : String) (k : WakeupCount String) : (k.lock name).saved = k.saved := by
  unfold WakeupCount.lock
  split <;> rfl

theorem saved_unlock (name : String) (k : WakeupCount String) : (k.unlock name).saved = k.saved := by
  unfold WakeupCount.unlock
  split <;> rfl

theorem saved_finish (k : WakeupCount String) : k.finish.saved = k.saved := by
  unfold WakeupCount.finish
  split <;> rfl

theorem seen_acquire {name : String} (h : Seen s) : Seen (acquire name true s) := by
  refine h.keep rfl (fun _ => saved_lock name s.kernel) (fun n hmarked => ?_) id
  refine ⟨?_, fun _ => WakeupCount.touched_lock n name s.kernel⟩
  show n ≤ (s.kernel.lock name).registered
  rw [WakeupCount.registered_lock]
  exact hmarked.1

theorem marked_unlock {n : Nat} {name : String} {ok : Bool} (h : Marked n s) :
    n ≤ (if ok then s.kernel.unlock name else s.kernel).registered ∧
      (0 < s.begun → (if ok then s.kernel.unlock name else s.kernel).Touched n) := by
  cases ok with
  | false => exact h
  | true => exact ⟨Nat.le_trans h.1 WakeupCount.registered_le_unlock, fun hbegun => (h.2 hbegun).unlock name h.1⟩

theorem seen_release {name : String} {ok : Bool} (h : Seen s) (hcounted : Counted s) (hmem : name ∈ s.held) :
    Seen (release name ok s) := by
  obtain ⟨map, heq, -⟩ := release_of_held ok hcounted hmem
  rw [heq]
  refine h.keep rfl (fun _ => ?_) (fun n hmarked => marked_unlock hmarked) fun hfew => ?_
  · cases ok with
    | false => rfl
    | true => exact saved_unlock name s.kernel
  · exact Nat.le_trans (List.length_erase_le) hfew

/-- `SuspendEnter` does not touch the count. -/
theorem marked_suspendEnter {n : Nat} {ok : Bool} (h : Marked n s) :
    Marked n { s with kernel := (suspendEnter ok s.kernel).1 } := by
  unfold suspendEnter
  cases ok with
  | false => exact h
  | true =>
    simp only [if_true]
    unfold WakeupCount.suspend
    split
    · exact h
    · exact ⟨h.1, fun hbegun => (h.2 hbegun).setSaved⟩

/-! ## Steps -/

structure Inv (s : State) : Prop where
  counted : Counted s
  seen : Seen s
  alive : s.aborted = false → s.loop ≠ .none → s.started = true ∨ s.marking = true

theorem inv_acquire {name : String} {ok : Bool} (h : Inv s) (hcareful : Careful s (.acquire name ok)) :
    Inv (acquire name ok s) := by
  have hok : ok = true := hcareful.1
  refine ⟨counted_acquire h.counted hcareful, ?_, h.alive⟩
  subst hok
  exact seen_acquire h.seen

theorem inv_release {name : String} {ok : Bool} (h : Inv s) (hmem : name ∈ s.held) : Inv (release name ok s) := by
  refine ⟨counted_release h.counted hmem, seen_release h.seen h.counted hmem, ?_⟩
  obtain ⟨map, heq, -⟩ := release_of_held ok h.counted hmem
  rw [heq]
  exact h.alive

theorem inv_step {event : Event} (h : Inv s) (hcareful : Careful s event) (hstep : step s event = some s') : Inv s' := by
  cases event with
  | acquire name ok =>
    cases hstep
    exact inv_acquire h hcareful
  | incSuspendBlockCounter name =>
    simp only [step, Option.ite_none_right_eq_some, Option.some.injEq] at hstep
    obtain ⟨hmem, rfl⟩ := hstep
    refine ⟨counted_inc h.counted hmem, h.seen.keep rfl (fun _ => rfl) (fun n hmarked => hmarked) fun hfew => ?_, h.alive⟩
    exact Nat.succ_le_succ hfew
  | release name ok =>
    cases hstep
    exact inv_release h hcareful
  | decSuspendBlockCounter =>
    simp only [step, Option.ite_none_right_eq_some, Option.some.injEq] at hstep
    obtain ⟨hpos, rfl⟩ := hstep
    exact ⟨counted_dec h.counted hpos, h.seen.keep rfl (fun _ => rfl) (fun n hmarked => hmarked) id, h.alive⟩
  | start =>
    cases hstep
    unfold start
    split
    · exact h
    · exact ⟨h.counted.keep rfl rfl rfl rfl rfl, trivial, fun _ _ => .inr rfl⟩
  | mark =>
    simp only [step, Option.ite_none_right_eq_some, Option.some.injEq] at hstep
    obtain ⟨-, rfl⟩ := hstep
    exact ⟨h.counted.keep rfl rfl rfl rfl rfl, h.seen, fun _ _ => .inl rfl⟩
  | stop =>
    cases hstep
    unfold stop
    split
    · exact ⟨h.counted.keep rfl rfl rfl rfl rfl, h.seen, fun habort => Bool.noConfusion habort⟩
    · exact h
  | wake =>
    simp only [step, Option.ite_none_right_eq_some] at hstep
    obtain ⟨hplace, hstep⟩ := hstep
    split at hstep
    next hstarted =>
      cases hstep
      exact ⟨h.counted.keep rfl rfl rfl rfl rfl, trivial, fun _ _ => .inl hstarted⟩
    next =>
      cases hstep
      exact ⟨h.counted.keep rfl rfl rfl rfl rfl, trivial, fun _ hloop => absurd rfl hloop⟩
  | read ok =>
    simp only [step, Option.ite_none_right_eq_some] at hstep
    obtain ⟨hplace, hstep⟩ := hstep
    have halive : s.aborted = false → s.started = true ∨ s.marking = true := fun habort =>
      h.alive habort (by rw [hplace]; exact Loop.noConfusion)
    split at hstep
    · obtain ⟨n, hread, rfl⟩ := Option.map_eq_some_iff.mp hstep
      simp only [WakeupCount.read?, Option.ite_none_right_eq_some, Option.some.injEq] at hread
      refine ⟨h.counted.keep rfl rfl rfl rfl rfl, ⟨Nat.le_of_eq hread.2.symm, fun hbegun => ?_⟩, fun habort _ => halive habort⟩
      exact absurd hbegun (Nat.lt_irrefl 0)
    · cases hstep
      exact ⟨h.counted.keep rfl rfl rfl rfl rfl, trivial, fun habort _ => halive habort⟩
  | wait =>
    simp only [step] at hstep
    split at hstep
    next n hplace =>
      simp only [Option.ite_none_right_eq_some, Option.some.injEq] at hstep
      obtain ⟨hzero, rfl⟩ := hstep
      have hseen := h.seen
      simp only [Seen, hplace] at hseen
      have hcounter := h.counted.counter
      rw [hzero] at hcounter
      refine ⟨h.counted.keep rfl rfl rfl rfl rfl, ⟨hseen, ?_⟩, fun habort _ => ?_⟩
      · show s.held.length ≤ 0
        have : (0 : UInt32).toNat = 0 := rfl
        omega
      · exact h.alive habort (by rw [hplace]; exact Loop.noConfusion)
    next => cases hstep
  | write =>
    simp only [step] at hstep
    split at hstep
    next n hplace =>
      cases hstep
      have hseen := h.seen
      simp only [Seen, hplace] at hseen
      have halive : s.aborted = false → s.started = true ∨ s.marking = true := fun habort =>
        h.alive habort (by rw [hplace]; exact Loop.noConfusion)
      refine ⟨h.counted.keep rfl rfl rfl rfl rfl, ?_, fun habort _ => halive habort⟩
      cases haccepted : (s.kernel.write n).2 with
      | false => trivial
      | true =>
        rw [WakeupCount.write_accepted haccepted]
        exact ⟨⟨n, rfl, hseen.1.1, fun hbegun => (hseen.1.2 hbegun).setSaved⟩, hseen.2⟩
    next => cases hstep
  | enter ok =>
    simp only [step, Option.ite_none_right_eq_some, Option.some.injEq] at hstep
    obtain ⟨-, rfl⟩ := hstep
    exact ⟨h.counted.keep rfl rfl rfl rfl rfl, trivial, fun _ hloop => absurd rfl hloop⟩
  | force ok =>
    cases hstep
    refine ⟨h.counted.keep rfl rfl rfl rfl rfl, h.seen.keep rfl (fun hplace => absurd hplace hcareful) (fun n hmarked => ?_) id,
      h.alive⟩
    exact marked_suspendEnter hmarked
  | wakeupBegin =>
    cases hstep
    refine ⟨h.counted.keep rfl rfl rfl rfl rfl, h.seen.keep rfl (fun _ => rfl) (fun n hmarked => ?_) id, h.alive⟩
    exact ⟨hmarked.1, fun _ => WakeupCount.touched_begin n s.kernel⟩
  | wakeupEnd =>
    cases hstep
    refine ⟨h.counted.keep rfl rfl rfl rfl rfl,
      h.seen.keep rfl (fun _ => saved_finish s.kernel) (fun n hmarked => ?_) id, h.alive⟩
    exact ⟨Nat.le_trans hmarked.1 WakeupCount.registered_le_finish, fun hbegun => (hmarked.2 hbegun).finish hmarked.1⟩

end Steps

/-! ## Names that are not shared -/

/-- The kernel holds a name as long as the hub counts it. -/
structure Alone (s : State) : Prop where
  nodup : (names s).Nodup
  nodupActive : s.kernel.active.Nodup
  mem : ∀ name, name ∈ s.kernel.active ↔ name ∈ names s

section Alone

variable {s s' : State}

theorem Alone.keep (h : Alone s) (hactive : s'.kernel.active = s.kernel.active) (hnames : names s' = names s) :
    Alone s' := by
  constructor
  · rw [hnames]
    exact h.nodup
  · rw [hactive]
    exact h.nodupActive
  · rw [hactive, hnames]
    exact h.mem

theorem active_write (n : Nat) (k : WakeupCount String) : (k.write n).1.active = k.active := by
  unfold WakeupCount.write
  split <;> rfl

theorem active_finish (k : WakeupCount String) : k.finish.active = k.active := by
  unfold WakeupCount.finish
  split <;> rfl

theorem active_suspendEnter (ok : Bool) (k : WakeupCount String) : (suspendEnter ok k).1.active = k.active := by
  unfold suspendEnter
  cases ok with
  | false => rfl
  | true =>
    simp only [if_true]
    unfold WakeupCount.suspend
    split <;> rfl

theorem alone_acquire {name : String} (h : Alone s) (hapart : name ∉ names s) : Alone (acquire name true s) := by
  have hactive : name ∉ s.kernel.active := fun hmem => hapart ((h.mem name).mp hmem)
  have hlock : (acquire name true s).kernel.active = name :: s.kernel.active := by
    simp [acquire, WakeupCount.lock, hactive]
  refine ⟨List.nodup_cons.mpr ⟨hapart, h.nodup⟩, ?_, fun other => ?_⟩
  · rw [hlock]
    exact List.nodup_cons.mpr ⟨hactive, h.nodupActive⟩
  · rw [hlock, List.mem_cons, h.mem other]
    exact List.mem_cons.symm

theorem alone_release {name : String} (h : Alone s) (hcounted : Counted s) (hmem : name ∈ s.held) :
    Alone (release name true s) := by
  obtain ⟨map, heq, -⟩ := release_of_held true hcounted hmem
  have hactive : name ∈ s.kernel.active := (h.mem name).mpr (List.mem_append_right _ hmem)
  have hunlock : (s.kernel.unlock name).active = s.kernel.active.erase name := by
    simp [WakeupCount.unlock, hactive]
  have hperm : (names s).Perm (name :: (s.acquiring ++ s.held.erase name)) :=
    ((List.perm_cons_erase hmem).append_left s.acquiring).trans List.perm_middle
  have hnodup := hperm.nodup_iff.mp h.nodup
  rw [heq]
  refine ⟨(List.nodup_cons.mp hnodup).2, ?_, fun other => ?_⟩
  · show (s.kernel.unlock name).active.Nodup
    rw [hunlock]
    exact h.nodupActive.erase name
  · show other ∈ (s.kernel.unlock name).active ↔ other ∈ s.acquiring ++ s.held.erase name
    rw [hunlock, h.nodupActive.mem_erase_iff, h.mem other, hperm.mem_iff, List.mem_cons]
    constructor
    · rintro ⟨hne, rfl | hother⟩
      · exact absurd rfl hne
      · exact hother
    · intro hother
      refine ⟨?_, .inr hother⟩
      rintro rfl
      exact (List.nodup_cons.mp hnodup).1 hother

theorem alone_step {event : Event} (hcounted : Counted s) (h : Alone s) (hcareful : Careful s event)
    (hapart : Apart s event) (hstep : step s event = some s') : Alone s' := by
  cases event with
  | acquire name ok =>
    cases hstep
    obtain rfl : ok = true := hcareful.1
    exact alone_acquire h hapart
  | incSuspendBlockCounter name =>
    simp only [step, Option.ite_none_right_eq_some, Option.some.injEq] at hstep
    obtain ⟨hmem, rfl⟩ := hstep
    have hperm : (names (incSuspendBlockCounter name s)).Perm (names s) :=
      List.perm_middle.trans ((List.perm_cons_erase hmem).symm.append_right s.held)
    refine ⟨hperm.nodup_iff.mpr h.nodup, h.nodupActive, fun other => ?_⟩
    rw [hperm.mem_iff]
    exact h.mem other
  | release name ok =>
    cases hstep
    obtain rfl : ok = true := hapart
    exact alone_release h hcounted hcareful
  | start =>
    cases hstep
    unfold start
    split
    · exact h
    · exact h.keep rfl rfl
  | stop =>
    cases hstep
    unfold stop
    split
    · exact h.keep rfl rfl
    · exact h
  | decSuspendBlockCounter | mark =>
    simp only [step, Option.ite_none_right_eq_some, Option.some.injEq] at hstep
    obtain ⟨-, rfl⟩ := hstep
    exact h.keep rfl rfl
  | wake =>
    simp only [step, Option.ite_none_right_eq_some] at hstep
    obtain ⟨-, hstep⟩ := hstep
    split at hstep <;> cases hstep <;> exact h.keep rfl rfl
  | read ok =>
    simp only [step, Option.ite_none_right_eq_some] at hstep
    obtain ⟨-, hstep⟩ := hstep
    split at hstep
    · obtain ⟨n, -, rfl⟩ := Option.map_eq_some_iff.mp hstep
      exact h.keep rfl rfl
    · cases hstep
      exact h.keep rfl rfl
  | wait =>
    simp only [step] at hstep
    split at hstep
    next =>
      simp only [Option.ite_none_right_eq_some, Option.some.injEq] at hstep
      obtain ⟨-, rfl⟩ := hstep
      exact h.keep rfl rfl
    next => cases hstep
  | write =>
    simp only [step] at hstep
    split at hstep
    next n _ =>
      cases hstep
      exact h.keep (active_write n s.kernel) rfl
    next => cases hstep
  | enter ok =>
    simp only [step, Option.ite_none_right_eq_some, Option.some.injEq] at hstep
    obtain ⟨-, rfl⟩ := hstep
    exact h.keep (active_suspendEnter ok s.kernel) rfl
  | force ok =>
    cases hstep
    exact h.keep (active_suspendEnter ok s.kernel) rfl
  | wakeupBegin =>
    cases hstep
    exact h.keep rfl rfl
  | wakeupEnd =>
    cases hstep
    exact h.keep (active_finish s.kernel) rfl

end Alone

/-! ## Runs -/

section Runs

variable {s : State}

theorem inv_init : Inv {} := by
  refine ⟨⟨fun name => ?_, rfl, by decide⟩, trivial, fun _ hloop => absurd rfl hloop⟩
  simp [names]

theorem step_of_next {s s' : State} {event : Event} (hnext : next s event = some s') : step s event = some s' := by
  unfold next at hnext
  split at hnext
  · cases hnext
  · exact hnext

theorem inv_of_reach (hreach : system.Reach Careful s) : Inv s := by
  refine hreach.invariant (I := Inv) (fun s hinit => ?_) fun s s' e h hok hnext => inv_step h hok (step_of_next hnext)
  cases hinit
  exact inv_init

theorem alone_of_reach (hreach : system.Reach (fun s e => Careful s e ∧ Apart s e) s) : Alone s := by
  have hboth : Inv s ∧ Alone s := by
    refine hreach.invariant (I := fun s => Inv s ∧ Alone s) (fun s hinit => ?_) fun s s' e h hok hnext =>
      ⟨inv_step h.1 hok.1 (step_of_next hnext), alone_step h.1.counted h.2 hok.1 hok.2 (step_of_next hnext)⟩
    cases hinit
    refine ⟨inv_init, ?_, ?_, fun name => ?_⟩ <;> simp [names]
  exact hboth.2

/-- The kernel has let the thread's sleep through. -/
theorem suspended_of_sleeps {ok : Bool} {s' : State} (hnext : next s (.enter ok) = some s') (hsleeps : s'.sleeps ≠ s.sleeps) :
    s.loop = .written ∧ s.kernel.suspend.2 = true := by
  have hstep := step_of_next hnext
  simp only [step, Option.ite_none_right_eq_some, Option.some.injEq] at hstep
  obtain ⟨hplace, rfl⟩ := hstep
  refine ⟨hplace, ?_⟩
  have hslept : (suspendEnter ok s.kernel).2 = true := by
    by_contra hnot
    exact hsleeps (if_neg hnot)
  cases ok with
  | false => cases hslept
  | true => exact hslept

end Runs

/-- A lock is taken while the thread sleeps, and keeps it from its read until it is given back; then the
device goes to sleep. -/
def takenAndReleased : List Event :=
  [.start, .mark, .acquire "a" true, .wake, .incSuspendBlockCounter "a", .release "a" true, .read true,
    .decSuspendBlockCounter, .wait, .write]

/-- The first release of a shared name takes it from the kernel.  The second call of `Acquire` has been
through the hub but not through the controller when the thread passes its wait: it returns, and the device
sleeps. -/
example : (system.checkedRun Careful {} [.acquire "a" true, .incSuspendBlockCounter "a", .acquire "a" true,
    .release "a" true, .decSuspendBlockCounter, .start, .mark, .wake, .read true, .wait,
    .incSuspendBlockCounter "a", .write, .enter true]).map (fun s => (s.sleeps, s.held)) = some (1, ["a"]) := by
  decide

/-- A forced suspend before `SuspendEnter` uses up the count, and a lock taken after it does not keep the
thread from its own. -/
example : (system.run {} [.start, .mark, .wake, .read true, .wait, .write, .force true, .acquire "a" true,
    .incSuspendBlockCounter "a", .enter true]).map (fun s => (s.sleeps, s.held)) = some (1, ["a"]) := by
  decide

end PowerMgr.Suspend.RunningLockHub
