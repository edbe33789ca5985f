import Mathlib.Init

/-! # The stage of the ULSR callbacks

`UlsrCallbackHolder` (`ulsr_callback_holder.cpp`) opens and closes a round of callbacks by a
compare-and-exchange of one atomic stage: `SyncUlsrNotify` opens a round only if none is open,
`WakeupNotify` closes one only if one is open.
-/

namespace PowerMgr.Ulsr

inductive UlsrCallbackStage where
  | done
  | enter
  deriving DecidableEq, Repr

/-- `compare_exchange_strong`: the new value, and whether the old one was the expected one. -/
def compareExchange {α : Type} [DecidableEq α] (expected desired value : α) : α × Bool :=
  if value = expected then (desired, true) else (value, false)

/-- The exchange of `SyncUlsrNotify`. -/
def openRound : UlsrCallbackStage → UlsrCallbackStage × Bool := compareExchange .done .enter

/-- The exchange of `WakeupNotify`. -/
def closeRound : UlsrCallbackStage → UlsrCallbackStage × Bool := compareExchange .enter .done

@[simp] theorem openRound_done : openRound .done = (.enter, true) := rfl

@[simp] theorem openRound_enter : openRound .enter = (.enter, false) := rfl

@[simp] theorem closeRound_done : closeRound .done = (.done, false) := rfl

@[simp] theorem closeRound_enter : closeRound .enter = (.done, true) := rfl

@[simp] theorem closeRound_stage (stage : UlsrCallbackStage) : (closeRound stage).1 = .done := by
  cases stage <;> rfl

end PowerMgr.Ulsr
