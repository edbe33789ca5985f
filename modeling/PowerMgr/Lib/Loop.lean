import Mathlib.Data.List.Basic

/-! # Loops over lists

`List.foldl` models a loop that visits the elements of a container in order.  The rule
below states what holds while the loop runs in terms of the elements still to be visited,
so that one iteration may use up what was assumed about the element it visits.
-/

namespace PowerMgr.Lib

universe u v

/-- A loop invariant over the state and the elements not yet visited. -/
theorem foldl_rest {σ : Type u} {α : Type v} {f : σ → α → σ} (I : σ → List α → Prop)
    (hstep : ∀ s a rest, I s (a :: rest) → I (f s a) rest)
    (l : List α) (s : σ) (h : I s l) : I (l.foldl f s) [] := by
  induction l generalizing s with
  | nil => exact h
  | cons a rest ih => exact ih (f s a) (hstep s a rest h)

/-- A loop invariant that does not depend on what is left to visit. -/
theorem foldl_keeps {σ : Type u} {α : Type v} {f : σ → α → σ} {I : σ → Prop}
    (hstep : ∀ s a, I s → I (f s a)) (l : List α) (s : σ) (h : I s) : I (l.foldl f s) :=
  foldl_rest (fun s _ => I s) (fun s a _ hs => hstep s a hs) l s h

/-- Two loops over the same elements agree as long as their bodies agree where an invariant of
the first one holds. -/
theorem foldl_congr_of_invariant {σ : Type u} {α : Type v} {f g : σ → α → σ} {I : σ → Prop}
    (hstep : ∀ s a, I s → I (f s a)) (hsame : ∀ s a, I s → f s a = g s a)
    (l : List α) (s : σ) (h : I s) : l.foldl f s = l.foldl g s := by
  induction l generalizing s with
  | nil => rfl
  | cons a rest ih =>
    rw [List.foldl_cons, List.foldl_cons, ← hsame s a h]
    exact ih (f s a) (hstep s a h)

end PowerMgr.Lib
