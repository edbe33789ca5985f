import PowerMgr.Lib.System
import Mathlib.Data.List.Count

/-! # Counting the external screens

Embedding of the external screen listener and of `ExternalScreenInit` (`power_mgr_service.cpp`), over
the number that the state machine keeps (`power_state_machine.h`).  The handlers read the number
through `GetExternalScreenNumber`, which takes one off under the switch action of a dual-screen
device, and write it back through a plain setter.

* `Machine` — the number and the switch action;
* `onConnect`, `onDisconnect` — the handlers, and what they do beside counting;
* `Counted` — the number is that of the initialisation and of the connects less the disconnects;
* `number_is_counted` — the runs in which this holds.

At a connect the screen manager knows the screen; at a disconnect it may have removed it already,
and the handler goes by the id.
-/

namespace PowerMgr.StateMachine.ExternalScreens

def customVirtualScreenRangeBeginId : Nat := 500

def customVirtualScreenRangeEndId : Nat := 900

def virtualScreenStartId : Nat := 1000

/-- The switch actions that `InitSwitchAction` chooses from. -/
inductive SwitchAction where
  | default
  | dualScreen
  deriving DecidableEq, Repr

/-- What `GetScreenInfoById` says of a screen: `ScreenTypeInfo::VIRTUAL` or another type. -/
inductive ScreenTypeInfo where
  | virtual
  | physical
  deriving DecidableEq, Repr

structure Screen where
  id : Nat
  type : ScreenTypeInfo
  deriving DecidableEq, Repr

/-! ## The handlers -/

structure Machine where
  externalScreenNumber : Int := 0
  switchAction : SwitchAction
  deriving DecidableEq, Repr

def Machine.getExternalScreenNumber (m : Machine) : Int :=
  match m.switchAction with
  | .dualScreen => if m.externalScreenNumber ≤ 0 then 0 else m.externalScreenNumber - 1
  | .default => m.externalScreenNumber

def Machine.setExternalScreenNumber (m : Machine) (number : Int) : Machine :=
  { m with externalScreenNumber := number }

/-- `ExternalScreenInit`; the ids are `none` when `GetPhysicalScreenIds` fails. -/
def externalScreenInit (m : Machine) (screenIds : Option (List Nat)) (isDesktopPc : Bool) : Machine :=
  match screenIds with
  | none => m
  | some screenIds =>
    if (!isDesktopPc ∧ screenIds.length ≤ 1) ∨ (isDesktopPc ∧ screenIds.length < 1) then m
    else m.setExternalScreenNumber (screenIds.length - 1)

/-- What the handlers read beside the number. -/
structure Readings where
  isSwitchOpen : Bool
  isScreenOn : Bool
  isExternalScreenWakeupEnable : Bool := true
  deriving DecidableEq, Repr

/-- The calls that the handlers make. -/
inductive Action where
  | powerOnAllScreens
  | powerOffAllScreens
  | powerOffInternalScreen
  | refreshActivity
  | wakeupDevice
  -- `ExecSuspendMonitorByReason` for the switch
  | suspendMonitor
  deriving DecidableEq, Repr

def onConnect (m : Machine) (info : Option ScreenTypeInfo) (r : Readings) : Machine × List Action :=
  match info with
  | none => (m, [])
  | some .virtual => (m, [])
  | some .physical =>
    let curExternalScreenNum := m.getExternalScreenNumber + 1
    let actions :=
      if r.isSwitchOpen && r.isScreenOn then [.powerOnAllScreens, .refreshActivity]
      else if r.isSwitchOpen && !r.isScreenOn then
        if r.isExternalScreenWakeupEnable then [.wakeupDevice] else []
      else if !r.isSwitchOpen && !r.isScreenOn then [.powerOffAllScreens]
      else if 1 < curExternalScreenNum then [.powerOnAllScreens, .powerOffInternalScreen]
      else []
    (m.setExternalScreenNumber curExternalScreenNum, actions)

/-- The check by id that `IsVirtualScreen` falls back to. -/
def hasVirtualId (screenId : Nat) : Bool :=
  (customVirtualScreenRangeBeginId ≤ screenId && screenId ≤ customVirtualScreenRangeEndId) ||
    virtualScreenStartId ≤ screenId

def isVirtualScreen (screenId : Nat) (info : Option ScreenTypeInfo) : Bool :=
  match info with
  | none => hasVirtualId screenId
  | some type => type = .virtual

/-- The machine, the actions, and `curExternalScreenNum` where the handler gets as far. -/
def onDisconnect (m : Machine) (screenId : Nat) (info : Option ScreenTypeInfo) (r : Readings) :
    Machine × List Action × Option Int :=
  if isVirtualScreen screenId info then (m, [], none)
  else
    let curExternalScreenNum := max (m.getExternalScreenNumber - 1) 0
    let actions :=
      if r.isSwitchOpen && r.isScreenOn then [.refreshActivity]
      else if !r.isSwitchOpen && r.isScreenOn then
        if curExternalScreenNum = 0 then [.suspendMonitor] else [.refreshActivity]
      else if !r.isSwitchOpen && !r.isScreenOn && curExternalScreenNum = 0 then [.suspendMonitor]
      else []
    (m.setExternalScreenNumber curExternalScreenNum, actions, some curExternalScreenNum)

/-! ## Runs -/

/-- `balance` is the number set at the initialisation, plus the physical connects and minus the
physical disconnects since; `cur` is `curExternalScreenNum` of the last step. -/
structure State where
  machine : Machine
  -- the screens that were there at the initialisation, and those connected since
  initial : List Screen
  connected : List Screen := []
  initialLeft : Bool := false
  balance : Int
  cur : Option Int := none
  log : List Action := []
  deriving DecidableEq, Repr

inductive Event where
  | connect (screen : Screen) (readings : Readings)
  -- `known` says whether `GetScreenInfoById` still finds the screen
  | disconnect (screen : Screen) (known : Bool) (readings : Readings)
  deriving DecidableEq, Repr

def Screen.weight (screen : Screen) : Int :=
  if screen.type = .physical then 1 else 0

def next (s : State) : Event → Option State
  | .connect screen readings =>
    let (machine, actions) := onConnect s.machine (some screen.type) readings
    if screen.id ∈ (s.initial ++ s.connected).map Screen.id then none
    else
      some { s with
        machine := machine
        connected := screen :: s.connected
        balance := s.balance + screen.weight
        cur := none
        log := s.log ++ actions }
  | .disconnect screen known readings =>
    let info := if known then some screen.type else none
    let (machine, actions, cur) := onDisconnect s.machine screen.id info readings
    if screen ∈ s.connected then
      some { s with
        machine := machine
        connected := s.connected.erase screen
        balance := s.balance - screen.weight
        cur := cur
        log := s.log ++ actions }
    else if screen ∈ s.initial then
      some { s with
        machine := machine
        initial := s.initial.erase screen
        initialLeft := true
        balance := s.balance - screen.weight
        cur := cur
        log := s.log ++ actions }
    else none

/-- The state that the initialisation leaves, of a device with the given physical screens. -/
def initialState (action : SwitchAction) (ids : List Nat) (answered isDesktopPc : Bool) : State :=
  let machine := externalScreenInit { switchAction := action } (if answered then some ids else none) isDesktopPc
  { machine := machine
    initial := ids.map fun id => { id := id, type := .physical }
    balance := machine.externalScreenNumber }

def system : Lib.System State Event where
  init s := ∃ action ids answered isDesktopPc, s = initialState action ids answered isDesktopPc
  next := next

/-- The number is the balance, and a disconnect that is handled finds 0 exactly when it is 0. -/
structure Counted (s : State) : Prop where
  number : s.machine.externalScreenNumber = s.balance
  nonneg : 0 ≤ s.balance
  none_left : ∀ cur, s.cur = some cur → (cur = 0 ↔ s.balance = 0)

/-- A disconnect is told by the type, or by an id that fits it.  Under the dual-screen action, a
physical screen is connected only at the number 0 and disconnected only at 1 or 0.  A physical
screen is disconnected while the number is above 0, which is so anyway if it was connected since the
initialisation and none of the screens there before have left. -/
def Careful (s : State) : Event → Prop
  | .connect screen _ =>
    screen.type = .physical → s.machine.switchAction = .dualScreen → s.machine.externalScreenNumber ≤ 0
  | .disconnect screen known _ =>
    (known = false → (hasVirtualId screen.id = true ↔ screen.type = .virtual)) ∧
      (screen.type = .physical →
        (s.machine.switchAction = .dualScreen → s.machine.externalScreenNumber ≤ 1) ∧
          (0 < s.machine.externalScreenNumber ∨ screen ∈ s.connected ∧ s.initialLeft = false))

/-! ## One handler at a time -/

theorem onConnect_number (m : Machine) (type : ScreenTypeInfo) (r : Readings) :
    (onConnect m (some type) r).1 =
      if type = .physical then m.setExternalScreenNumber (m.getExternalScreenNumber + 1) else m := by
  cases type <;> rfl

theorem isVirtualScreen_eq {screen : Screen} {known : Bool}
    (hid : known = false → (hasVirtualId screen.id = true ↔ screen.type = .virtual)) :
    isVirtualScreen screen.id (if known then some screen.type else none) = decide (screen.type = .virtual) := by
  cases known with
  | false =>
    rw [Bool.eq_iff_iff, decide_eq_true_eq]
    exact hid rfl
  | true => rfl

/-- What a connect of a physical screen adds to the number. -/
theorem getExternalScreenNumber_add_one {m : Machine} (hnonneg : 0 ≤ m.externalScreenNumber)
    (hdual : m.switchAction = .dualScreen → m.externalScreenNumber ≤ 0) :
    m.getExternalScreenNumber + 1 = m.externalScreenNumber + 1 := by
  unfold Machine.getExternalScreenNumber
  cases haction : m.switchAction with
  | default => rfl
  | dualScreen =>
    have hzero := hdual haction
    simp only [if_pos hzero]
    omega

/-- What a disconnect of a physical screen takes off it. -/
theorem max_getExternalScreenNumber_sub_one {m : Machine} (hpos : 0 < m.externalScreenNumber)
    (hdual : m.switchAction = .dualScreen → m.externalScreenNumber ≤ 1) :
    max (m.getExternalScreenNumber - 1) 0 = m.externalScreenNumber - 1 := by
  unfold Machine.getExternalScreenNumber
  cases haction : m.switchAction with
  | default =>
    simp only
    omega
  | dualScreen =>
    have hone := hdual haction
    simp only [if_neg (Int.not_le.mpr hpos)]
    omega

theorem externalScreenInit_nonneg (m : Machine) (hnonneg : 0 ≤ m.externalScreenNumber) (screenIds : Option (List Nat))
    (isDesktopPc : Bool) : 0 ≤ (externalScreenInit m screenIds isDesktopPc).externalScreenNumber := by
  cases screenIds with
  | none => exact hnonneg
  | some screenIds =>
    simp only [externalScreenInit]
    split_ifs with hfew
    · exact hnonneg
    · have hlength : 1 ≤ screenIds.length := by
        by_contra hshort
        refine hfew ?_
        cases isDesktopPc with
        | false => exact .inl ⟨rfl, by omega⟩
        | true => exact .inr ⟨rfl, by omega⟩
      simp only [Machine.setExternalScreenNumber]
      omega

/-! ## Every run -/

def physicalCount (screens : List Screen) : Nat :=
  screens.countP fun screen => screen.type = .physical

/-- While the screens of the initialisation are there, the number is at least that of the physical
screens connected since. -/
structure Inv (s : State) : Prop extends Counted s where
  connected : s.initialLeft = false → physicalCount s.connected ≤ s.balance

variable {s s' : State}

theorem inv_init (h : system.init s) : Inv s := by
  obtain ⟨action, ids, answered, isDesktopPc, rfl⟩ := h
  have hnonneg := externalScreenInit_nonneg { switchAction := action } (Int.le_refl 0)
    (if answered then some ids else none) isDesktopPc
  exact ⟨⟨rfl, hnonneg, fun cur h => by cases h⟩, fun _ => hnonneg⟩

theorem Inv.connect (h : Inv s) {screen : Screen} {readings : Readings}
    (hcareful : Careful s (.connect screen readings)) (hnext : next s (.connect screen readings) = some s') :
    Inv s' := by
  simp only [next] at hnext
  split at hnext
  · cases hnext
  · cases hnext
    cases htype : screen.type with
    | virtual =>
      refine ⟨⟨?_, ?_, fun cur h => by cases h⟩, fun hleft => ?_⟩
      · simp [onConnect, Screen.weight, htype, h.number]
      · simp [Screen.weight, htype, h.nonneg]
      · simpa [physicalCount, Screen.weight, htype] using h.connected hleft
    | physical =>
      have hnumber := getExternalScreenNumber_add_one (h.number ▸ h.nonneg) (hcareful htype)
      refine ⟨⟨?_, ?_, fun cur h => by cases h⟩, fun hleft => ?_⟩
      · simp [onConnect_number, Machine.setExternalScreenNumber, Screen.weight, htype, hnumber, h.number]
      · have := h.nonneg
        simp only [Screen.weight, htype, if_true]
        omega
      · have := h.connected hleft
        simp only [physicalCount, List.countP_cons, Screen.weight, htype, decide_true, if_true] at this ⊢
        omega

/-- What a disconnect leaves, whichever list the screen is taken from. -/
theorem Inv.counted_disconnect (h : Inv s) {screen : Screen} {known : Bool} {readings : Readings}
    (hcareful : Careful s (.disconnect screen known readings)) :
    let info := if known then some screen.type else none
    let after := onDisconnect s.machine screen.id info readings
    after.1.externalScreenNumber = s.balance - screen.weight ∧ 0 ≤ s.balance - screen.weight ∧
      ∀ cur, after.2.2 = some cur → (cur = 0 ↔ s.balance - screen.weight = 0) := by
  obtain ⟨hid, hphysical⟩ := hcareful
  simp only [onDisconnect, isVirtualScreen_eq hid]
  cases htype : screen.type with
  | virtual => simp [Screen.weight, htype, h.number, h.nonneg]
  | physical =>
    obtain ⟨hdual, hcount⟩ := hphysical htype
    have hpos : 0 < s.machine.externalScreenNumber := by
      obtain hpos | ⟨hconnected, hleft⟩ := hcount
      · exact hpos
      · have hone : 0 < physicalCount s.connected := List.countP_pos_iff.mpr ⟨screen, hconnected, by simp [htype]⟩
        have := h.connected hleft
        rw [h.number]
        omega
    have hcur := max_getExternalScreenNumber_sub_one hpos hdual
    rw [h.number] at hpos hcur
    simp only [decide_false, Bool.false_eq_true, if_false, Machine.setExternalScreenNumber, Screen.weight, htype,
      if_true, hcur, reduceCtorEq]
    refine ⟨trivial, by omega, fun cur heq => ?_⟩
    cases heq
    rfl

theorem Inv.disconnect (h : Inv s) {screen : Screen} {known : Bool} {readings : Readings}
    (hcareful : Careful s (.disconnect screen known readings))
    (hnext : next s (.disconnect screen known readings) = some s') : Inv s' := by
  obtain ⟨hnumber, hnonneg, hcur⟩ := h.counted_disconnect hcareful
  simp only [next] at hnext
  split at hnext
  next hmem =>
    cases hnext
    refine ⟨⟨hnumber, hnonneg, hcur⟩, fun hleft => ?_⟩
    have hle := h.connected hleft
    have herase := List.countP_erase (fun screen : Screen => decide (screen.type = .physical)) s.connected screen
    simp only [physicalCount, Screen.weight] at hle ⊢
    rw [herase]
    cases htype : screen.type with
    | virtual => simpa [htype] using hle
    | physical =>
      have hone : 0 < physicalCount s.connected := List.countP_pos_iff.mpr ⟨screen, hmem, by simp [htype]⟩
      simp only [physicalCount] at hone
      simp [hmem]
      omega
  next =>
    split at hnext
    next =>
      cases hnext
      exact ⟨⟨hnumber, hnonneg, hcur⟩, fun hleft => by cases hleft⟩
    next => cases hnext

/-- In every careful run the number is counted right. -/
theorem number_is_counted (h : system.Reach Careful s) : Counted s := by
  have hinv : Inv s := by
    refine h.invariant (I := Inv) ?_ ?_
    · intro s hs
      exact inv_init hs
    · intro s s' e hinv hcareful hnext
      cases e with
      | connect screen readings => exact hinv.connect hcareful hnext
      | disconnect screen known readings => exact hinv.disconnect hcareful hnext
  exact hinv.toCounted

/-- A screen is plugged in beside the one that was there, with a virtual one, and both go. -/
theorem number_is_counted_one : ∃ s, Counted s ∧ s.machine.externalScreenNumber = 1 ∧ s.cur = some 1 ∧
    s.log = [.powerOnAllScreens, .powerOffInternalScreen, .refreshActivity] := by
  have hlaptop : system.Reach Careful (initialState .default [0, 1] true false) := .init ⟨_, _, _, _, rfl⟩
  have hvirtual := hlaptop.step
    (Event.connect { id := 600, type := .virtual } { isSwitchOpen := false, isScreenOn := true })
    (fun htype => absurd htype (by decide)) rfl
  have hscreen := hvirtual.step
    (Event.connect { id := 7, type := .physical } { isSwitchOpen := false, isScreenOn := true })
    (fun _ haction => absurd haction (by decide)) rfl
  have hgone := hscreen.step
    (Event.disconnect { id := 600, type := .virtual } false { isSwitchOpen := false, isScreenOn := true })
    ⟨by decide, by decide⟩ rfl
  have hback := hgone.step
    (Event.disconnect { id := 7, type := .physical } false { isSwitchOpen := false, isScreenOn := true })
    ⟨by decide, by decide⟩ rfl
  exact ⟨_, number_is_counted hback, rfl, rfl, rfl⟩

/-- Under the dual-screen action, a screen that is plugged in is not counted, and one is taken off
when it goes: after one cycle the number is 0 instead of 1. -/
theorem number_miscounted :
    (∃ s, system.Reachable s ∧ s.machine = { externalScreenNumber := 1, switchAction := .dualScreen } ∧
      s.balance = 2 ∧ ¬Counted s) ∧
    ∃ s, system.Reachable s ∧ s.machine = { externalScreenNumber := 0, switchAction := .dualScreen } ∧
      s.balance = 1 ∧ ¬Counted s := by
  have hdual : system.Reachable (initialState .dualScreen [0, 1] true false) := .init ⟨_, _, _, _, rfl⟩
  have hscreen := hdual.step
    (Event.connect { id := 7, type := .physical } { isSwitchOpen := true, isScreenOn := true }) trivial rfl
  have hgone := hscreen.step
    (Event.disconnect { id := 7, type := .physical } true { isSwitchOpen := true, isScreenOn := true }) trivial rfl
  constructor
  · exact ⟨_, hscreen, rfl, rfl, fun hcounted => absurd hcounted.number (by decide)⟩
  · exact ⟨_, hgone, rfl, rfl, fun hcounted => absurd hcounted.number (by decide)⟩

end PowerMgr.StateMachine.ExternalScreens
