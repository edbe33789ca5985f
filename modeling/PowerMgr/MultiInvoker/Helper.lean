import PowerMgr.Lib.System
import PowerMgr.Lib.TreeMap

/-! # Requests of several invokers

Embedding of `MultiInvokerHelper` (`multi_invoker_helper.cpp`).  Clients switch boolean parameters
away from their defaults; each client speaks for several applications, and a parameter is switched
as long as one of them wants it so.  Both levels count: an `Invoker` counts its entries, the helper
counts its invokers, bit by bit.

* `Counter` — `sum_[index]` and `result_[index]`, of either level;
* `Invoker`, `Helper` — the two levels;
* `Requests` — the abstract state: what each client last asked for on behalf of each application;
* `State` — the helper beside the requests it was given.

The counters are `uint64_t` and count objects in memory, so they are natural numbers here; only a
decrement, which could be taken at 0, is written with its wrap-around.  Every pass of the loops over
`index` works on the counter of that index alone, so a loop is a function of the index.
-/

namespace PowerMgr.MultiInvoker

open Std (TreeMap)

/-- `std::bitset<MAX_PARAM_NUMBER>`. -/
abbrev Bitset := Fin 8 → Bool

def Bitset.xor (a b : Bitset) : Bitset := fun k => a k ^^ b k

def Bitset.isZero (b : Bitset) : Bool := decide (∀ k, b k = false)

/-- The arguments of the constructor. -/
structure Params where
  -- the number of parameters, before it is cut to `MAX_PARAM_NUMBER`
  paramCount : Nat
  defaultParam : Bitset
  -- `onChange_` is not null
  hasOnChange : Bool := true

def Params.counts (p : Params) (k : Fin 8) : Bool := k.val < min p.paramCount 8

/-! ## Counters -/

structure Counter where
  sum : Nat := 0
  result : Bool := false
  deriving DecidableEq, Repr

/-- `--` on a `uint64_t`. -/
def decrement (n : Nat) : Nat := if n = 0 then 2 ^ 64 - 1 else n - 1

/-- One pass of the loop in `Invoker::SetValue` and of the one in `Set`: a bit goes from `previous`
to `current`. -/
def Counter.change (previous current : Bool) (c : Counter) : Counter :=
  if previous && !current then { sum := decrement c.sum, result := decrement c.sum != 0 }
  else if !previous && current then { sum := c.sum + 1, result := c.sum + 1 != 0 }
  else c

/-- One pass of the loop in `RemoveInvoker`. -/
def Counter.remove (bit : Bool) (c : Counter) : Counter :=
  let sum := if bit then decrement c.sum else c.sum
  { sum := sum, result := sum != 0 }

/-- The pass decrements a sum that is 0. -/
def Counter.underflows (previous current : Bool) (c : Counter) : Bool :=
  previous && !current && c.sum == 0

/-! ## The two levels -/

structure Invoker where
  counters : Fin 8 → Counter := fun _ => {}
  entries : TreeMap Int Bitset := ∅

def Invoker.result (i : Invoker) : Bitset := fun k => (i.counters k).result

/-- `entries_` at a key, 0 if there is none. -/
def Invoker.entry (i : Invoker) (key : Int) : Bitset := i.entries[key]?.getD fun _ => false

/-- `Invoker::SetValue`. -/
def Invoker.setValue (p : Params) (appid : Int) (input : Bitset) (i : Invoker) : Invoker where
  counters k := if p.counts k then (i.counters k).change (i.entry appid k) (input k) else i.counters k
  entries := if input.isZero then i.entries.erase appid else i.entries.insert appid input

/-- The helper; `recipients` says at which remote objects it is registered as death recipient,
`reported` is what `onChange_` was called with last, and `underflow` is set once a sum has been
decremented at 0.  Remote objects are known by their descriptors. -/
structure Helper where
  invokers : TreeMap String Invoker := ∅
  counters : Fin 8 → Counter := fun _ => {}
  recipients : String → Bool := fun _ => false
  reported : Option Bitset := none
  underflow : Bool := false

/-- `MultiInvokerHelper::GetResult`. -/
def Helper.result (h : Helper) : Bitset := fun k => (h.counters k).result

def Helper.setRecipient (remote : String) (attached : Bool) (h : Helper) : Helper :=
  { h with recipients := fun remote' => if remote' = remote then attached else h.recipients remote' }

/-- The invoker of a remote object, a new one if there is none. -/
def Helper.invoker (h : Helper) (remote : String) : Invoker :=
  h.invokers[remote]?.getD {}

def Helper.onChange (p : Params) (h : Helper) : Helper :=
  if p.hasOnChange then { h with reported := some (h.result.xor p.defaultParam) } else h

def Helper.removeInvoker (p : Params) (remote : String) (h : Helper) : Helper × Bool :=
  match h.invokers[remote]? with
  | none => (h, false)
  | some i =>
    ({ h with
      counters := fun k => if p.counts k then (h.counters k).remove (i.result k) else h.counters k
      underflow := h.underflow || decide (∃ k, p.counts k = true ∧ i.result k = true ∧ (h.counters k).sum = 0)
      invokers := h.invokers.erase remote }.onChange p, true)

/-- `AddDeathRecipient` and `RemoveDeathRecipient` in `Set`. -/
def Helper.watch (remote : String) (previous result : Bitset) (h : Helper) : Helper :=
  if previous.isZero && !result.isZero then h.setRecipient remote true
  else if !previous.isZero && result.isZero then h.setRecipient remote false
  else h

/-- `Set` for a remote object that is not null, with `inputKey` chosen and the input compared to the
defaults. -/
def Helper.setValue (p : Params) (remote : String) (inputKey : Int) (deltaInput : Bitset) (h : Helper) : Helper :=
  let i := h.invoker remote
  let i' := i.setValue p inputKey deltaInput
  let h' := { h with
    invokers := if i'.result.isZero then h.invokers.erase remote else h.invokers.insert remote i'
    counters := fun k => if p.counts k then (h.counters k).change (i.result k) (i'.result k) else h.counters k
    underflow := h.underflow || decide (∃ k, p.counts k = true ∧
      ((i.counters k).underflows (i.entry inputKey k) (deltaInput k) = true ∨
        (h.counters k).underflows (i.result k) (i'.result k) = true)) }
  (h'.watch remote i.result i'.result).onChange p

/-- `inputKey`: the application, or the invoker itself. -/
def inputKey (invokerPid appid : Int) : Int :=
  if appid ≠ -1 then appid else invokerPid

def Helper.set (p : Params) (remote : Option String) (invokerPid appid : Int) (input : Bitset) (h : Helper) : Helper :=
  match remote with
  | none => h
  | some remote => h.setValue p remote (inputKey invokerPid appid) (input.xor p.defaultParam)

/-- `OnRemoteDied`; `promoted` says whether the weak reference could be promoted. -/
def Helper.onRemoteDied (p : Params) (remote : String) (promoted : Bool) (h : Helper) : Helper :=
  if promoted then (h.removeInvoker p remote).1.setRecipient remote false else h

/-! ## What the clients have asked for -/

/-- For each client and key the last input it set, compared to the defaults. -/
abbrev Requests := String → Int → Bitset

def Requests.set (remote : String) (key : Int) (delta : Bitset) (r : Requests) : Requests :=
  fun remote' key' => if remote' = remote ∧ key' = key then delta else r remote' key'

def Requests.drop (remote : String) (r : Requests) : Requests :=
  fun remote' key' => if remote' = remote then fun _ => false else r remote' key'

/-- Somebody wants the parameter switched. -/
def Requests.wanted (r : Requests) (k : Fin 8) : Prop :=
  ∃ remote key, r remote key k = true

/-! ## Runs -/

structure State where
  helper : Helper := {}
  requests : Requests := fun _ _ _ => false

inductive Event where
  | set (remote : Option String) (invokerPid appid : Int) (input : Bitset)
  | removeInvoker (remote : String)
  | onRemoteDied (remote : String) (promoted : Bool)

def Requests.next (p : Params) (r : Requests) : Event → Requests
  | .set none _ _ _ => r
  | .set (some remote) invokerPid appid input => r.set remote (inputKey invokerPid appid) (input.xor p.defaultParam)
  | .removeInvoker remote => r.drop remote
  | .onRemoteDied remote promoted => if promoted then r.drop remote else r

def Helper.next (p : Params) (h : Helper) : Event → Helper
  | .set remote invokerPid appid input => h.set p remote invokerPid appid input
  | .removeInvoker remote => (h.removeInvoker p remote).1
  | .onRemoteDied remote promoted => h.onRemoteDied p remote promoted

def State.next (p : Params) (s : State) (e : Event) : State where
  helper := s.helper.next p e
  requests := s.requests.next p e

/-- The helper from its construction on; every call is made under its mutex. -/
def system (p : Params) : Lib.System State Event where
  init := (· = {})
  next s e := some (s.next p e)

end PowerMgr.MultiInvoker
