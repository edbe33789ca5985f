import Mathlib.Logic.Function.Basic
import Mathlib.Order.Basic

/-! # Transition systems with labelled steps

A program that is driven from outside — by calls, by timers firing, by other
threads — is modelled as a partial function `next` from a state and an event to
the state after it.  An event that is not enabled has no successor.

* `System.Reach ok s` — `s` is reached by a run all of whose steps satisfy `ok`
  in the state they are taken from.
* `System.Reachable` — the special case without a restriction on the steps.
* `Reach.invariant` — the induction rule every safety result goes through.
* `Reach.mono` — what fewer runs reach.
* `System.run` — the executable form, used to exhibit single runs; `System.checkedRun` looks at each step too.
* `update_cases` — a table with an entry for each party, after a step of one of them.
-/

namespace PowerMgr.Lib

universe u v

/-- A labelled transition system: initial states and a partial step function. -/
structure System (σ : Type u) (ε : Type v) where
  init : σ → Prop
  next : σ → ε → Option σ

namespace System

variable {σ : Type u} {ε : Type v} (S : System σ ε)

/-- The states reached by runs whose every step satisfies `ok` where it is taken. -/
inductive Reach (ok : σ → ε → Prop) : σ → Prop where
  | init {s : σ} : S.init s → Reach ok s
  | step {s s' : σ} (e : ε) : Reach ok s → ok s e → S.next s e = some s' → Reach ok s'

/-- The states reached by arbitrary runs. -/
abbrev Reachable : σ → Prop := S.Reach fun _ _ => True

/-- The same steps, from one given state. -/
def startingAt (s : σ) : System σ ε where
  init := (· = s)
  next := S.next

variable {S}

/-- An assertion that holds initially and is kept by every step that satisfies `ok`
holds in every state such runs reach. -/
theorem Reach.invariant {ok : σ → ε → Prop} {I : σ → Prop}
    (hinit : ∀ s, S.init s → I s)
    (hstep : ∀ s s' e, I s → ok s e → S.next s e = some s' → I s')
    {s : σ} (h : S.Reach ok s) : I s := by
  induction h with
  | init hs => exact hinit _ hs
  | step e _ hok hnext ih => exact hstep _ _ e ih hok hnext

/-- What fewer runs reach is reached by more of them. -/
theorem Reach.mono {ok ok' : σ → ε → Prop} (h : ∀ s e, ok s e → ok' s e) {s : σ} (hs : S.Reach ok s) :
    S.Reach ok' s := by
  induction hs with
  | init hinit => exact .init hinit
  | step e _ hok hnext ih => exact .step e ih (h _ _ hok) hnext

variable (S)

/-- Perform a list of events in order; `none` when one of them is not enabled. -/
def run (s : σ) : List ε → Option σ
  | [] => some s
  | e :: es => (S.next s e).bind fun s' => run s' es

variable {S}

@[simp] theorem run_nil (s : σ) : S.run s [] = some s := rfl

@[simp] theorem run_cons (s : σ) (e : ε) (es : List ε) :
    S.run s (e :: es) = (S.next s e).bind fun s' => S.run s' es := rfl

theorem run_append (s : σ) (es es' : List ε) : S.run s (es ++ es') = (S.run s es).bind fun t => S.run t es' := by
  induction es generalizing s with
  | nil => rfl
  | cons e es ih =>
    rw [List.cons_append, run_cons, run_cons, Option.bind_assoc]
    exact congrArg _ (funext ih)

/-- An executed run whose events satisfy `ok` wherever they are taken. -/
theorem Reach.of_run {ok : σ → ε → Prop} {s s' : σ} (es : List ε) (hs : S.Reach ok s)
    (hok : ∀ s, ∀ e ∈ es, ok s e) (hrun : S.run s es = some s') : S.Reach ok s' := by
  induction es generalizing s with
  | nil =>
    cases hrun
    exact hs
  | cons e es ih =>
    rw [run_cons, Option.bind_eq_some_iff] at hrun
    obtain ⟨t, hnext, hrest⟩ := hrun
    refine ih (.step e hs (hok s e List.mem_cons_self) hnext) (fun s e' hmem => ?_) hrest
    exact hok s e' (List.mem_cons_of_mem _ hmem)

/-- Every state an executed run ends in is reachable. -/
theorem reachable_of_run {s s' : σ} (es : List ε) (hs : S.Reachable s) (hrun : S.run s es = some s') :
    S.Reachable s' :=
  hs.of_run es (fun _ _ _ => trivial) hrun

variable (S)

/-- Perform a list of events in order; `none` when one of them is not enabled or not allowed. -/
def checkedRun (ok : σ → ε → Prop) [∀ s e, Decidable (ok s e)] (s : σ) : List ε → Option σ
  | [] => some s
  | e :: es => if ok s e then (S.next s e).bind fun s' => checkedRun ok s' es else none

variable {S}

/-- An executed run in which each event was found to satisfy `ok` where it was taken. -/
theorem Reach.of_checkedRun {ok : σ → ε → Prop} [∀ s e, Decidable (ok s e)] {s s' : σ} (es : List ε)
    (hs : S.Reach ok s) (hrun : S.checkedRun ok s es = some s') : S.Reach ok s' := by
  induction es generalizing s with
  | nil =>
    cases hrun
    exact hs
  | cons e es ih =>
    rw [checkedRun, Option.ite_none_right_eq_some, Option.bind_eq_some_iff] at hrun
    obtain ⟨hok, t, hnext, hrest⟩ := hrun
    exact ih (.step e hs hok hnext) hrest

end System

/-! ## Parties -/

/-- A step of one party changes its own entry; whatever is found afterwards is that one or an old one. -/
theorem update_cases {ι : Type u} {α : Type v} [DecidableEq ι] {table : ι → α} {party other : ι} {entry found : α}
    (h : Function.update table party entry other = found) :
    other = party ∧ entry = found ∨ other ≠ party ∧ table other = found := by
  rw [Function.update_apply] at h
  exact ite_eq_iff.mp h

end PowerMgr.Lib
