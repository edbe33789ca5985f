import PowerMgr.MultiInvoker.Helper
import Mathlib.Data.List.Pairwise
import Mathlib.Data.List.Perm.Basic

/-! # The helper computes the OR of the requests

Both levels keep the same kind of counter over a map in which one key changes at a time, so both
rest on `Counter.change_counts`.

* `Counts` — a counter agrees with a number;
* `Invoker.Sound`, `Inv` — the invariants of the two levels, and the relation to the requests;
* `multiInvoker_or` — the result, with independence of the order and the death recipients.
-/

namespace PowerMgr.MultiInvoker

open Std (TreeMap)

/-! ## Counters -/

structure Counts (c : Counter) (n : Nat) : Prop where
  sum : c.sum = n
  result : c.result = (n != 0)

theorem counts_fresh : Counts {} 0 :=
  ⟨rfl, rfl⟩

/-- A bit that goes from `previous` to `current` moves the counter as it moves the number counted,
and a decrement finds the bit counted. -/
theorem Counter.change_counts {c : Counter} {n n' : Nat} {previous current : Bool} (h : Counts c n)
    (hn : n' + previous.toNat = n + current.toNat) :
    Counts (c.change previous current) n' ∧ c.underflows previous current = false := by
  cases previous with
  | false =>
    cases current with
    | false =>
      simp only [Bool.toNat_false, Nat.add_zero] at hn
      subst hn
      exact ⟨h, rfl⟩
    | true =>
      simp only [Bool.toNat_false, Bool.toNat_true, Nat.add_zero] at hn
      refine ⟨⟨?_, ?_⟩, rfl⟩
      · simp only [Counter.change, Bool.false_and, Bool.false_eq_true, if_false, Bool.not_false, Bool.true_and,
          if_true, h.sum, hn]
      · simp only [Counter.change, Bool.false_and, Bool.false_eq_true, if_false, Bool.not_false, Bool.true_and,
          if_true, h.sum, hn]
  | true =>
    cases current with
    | false =>
      simp only [Bool.toNat_false, Bool.toNat_true, Nat.add_zero] at hn
      have hpos : c.sum ≠ 0 := by
        rw [h.sum]
        omega
      have hsum : decrement c.sum = n' := by
        rw [decrement, if_neg hpos, h.sum]
        omega
      refine ⟨⟨?_, ?_⟩, ?_⟩
      · simp only [Counter.change, Bool.true_and, Bool.not_false, if_true, hsum]
      · simp only [Counter.change, Bool.true_and, Bool.not_false, if_true, hsum]
      · simp [Counter.underflows, hpos]
    | true =>
      simp only [Bool.toNat_true, Nat.add_right_cancel_iff] at hn
      subst hn
      exact ⟨h, rfl⟩

theorem Counter.remove_counts {c : Counter} {n n' : Nat} {bit : Bool} (h : Counts c n)
    (hn : n' + bit.toNat = n) : Counts (c.remove bit) n' ∧ ¬ (bit = true ∧ c.sum = 0) := by
  cases bit with
  | false =>
    simp only [Bool.toNat_false, Nat.add_zero] at hn
    subst hn
    refine ⟨⟨?_, ?_⟩, nofun⟩
    · simp only [Counter.remove, Bool.false_eq_true, if_false, h.sum]
    · simp only [Counter.remove, Bool.false_eq_true, if_false, h.sum]
  | true =>
    simp only [Bool.toNat_true] at hn
    have hpos : c.sum ≠ 0 := by
      rw [h.sum]
      omega
    have hsum : decrement c.sum = n' := by
      rw [decrement, if_neg hpos, h.sum]
      omega
    refine ⟨⟨?_, ?_⟩, fun hzero => hpos hzero.2⟩
    · simp only [Counter.remove, if_true, hsum]
    · simp only [Counter.remove, if_true, hsum]

theorem Bitset.isZero_iff (b : Bitset) : b.isZero = true ↔ ∀ k, b k = false := by
  simp only [Bitset.isZero, decide_eq_true_eq]

/-! ## One invoker -/

/-- The counters of an invoker count its entries; those past `paramCount_` are not used. -/
structure Invoker.Sound (p : Params) (i : Invoker) : Prop where
  counters : ∀ k, p.counts k = true → Counts (i.counters k) (Lib.TreeMap.count (fun b : Bitset => b k) i.entries)
  unused : ∀ k, p.counts k = false → i.counters k = {}

variable {p : Params} {i : Invoker} {h : Helper}

theorem Invoker.sound_fresh : Invoker.Sound p {} :=
  ⟨fun _ _ => counts_fresh, fun _ _ => rfl⟩

theorem Invoker.entry_eq (i : Invoker) (key : Int) (k : Fin 8) :
    i.entry key k = i.entries[key]?.any fun b => b k := by
  rw [Invoker.entry]
  cases i.entries[key]? <;> rfl

/-- `SetValue` stores the input under its key and leaves the other keys alone. -/
theorem Invoker.setValue_entry (appid key : Int) (input : Bitset) (k : Fin 8) :
    (i.setValue p appid input).entry key k = if key = appid then input k else i.entry key k := by
  simp only [Invoker.entry, Invoker.setValue]
  cases hzero : input.isZero with
  | true =>
    rw [if_pos rfl, Lib.TreeMap.getElem?_erase_eq]
    by_cases hkey : appid = key
    · rw [if_pos hkey, if_pos hkey.symm]
      exact ((Bitset.isZero_iff input).mp hzero k).symm
    · rw [if_neg hkey, if_neg fun hsame => hkey hsame.symm]
  | false =>
    rw [if_neg Bool.false_ne_true, Lib.TreeMap.getElem?_insert_eq]
    by_cases hkey : appid = key
    · rw [if_pos hkey, if_pos hkey.symm]
      rfl
    · rw [if_neg hkey, if_neg fun hsame => hkey hsame.symm]

theorem Invoker.Sound.setValue (h : i.Sound p) (appid : Int) (input : Bitset) :
    (i.setValue p appid input).Sound p ∧
      ∀ k, p.counts k = true → (i.counters k).underflows (i.entry appid k) (input k) = false := by
  have hstep : ∀ k, p.counts k = true →
      Counts ((i.counters k).change (i.entry appid k) (input k))
        (Lib.TreeMap.count (fun b : Bitset => b k) (i.setValue p appid input).entries) ∧
      (i.counters k).underflows (i.entry appid k) (input k) = false := by
    intro k hk
    apply Counter.change_counts (h.counters k hk)
    have hagree := Lib.TreeMap.count_agree (fun b : Bitset => b k) i.entries (i.setValue p appid input).entries appid
      fun key hkey => by
        rw [← Invoker.entry_eq, ← Invoker.entry_eq, Invoker.setValue_entry, if_neg hkey]
    rw [← Invoker.entry_eq, ← Invoker.entry_eq, Invoker.setValue_entry, if_pos rfl] at hagree
    exact hagree
  refine ⟨⟨fun k hk => ?_, fun k hk => ?_⟩, fun k hk => (hstep k hk).2⟩
  · have hcounts := (hstep k hk).1
    rw [Invoker.setValue] at hcounts ⊢
    simp only [hk, if_true]
    exact hcounts
  · simp only [Invoker.setValue, hk, Bool.false_eq_true, if_false]
    exact h.unused k hk

/-- The result bit is the OR of the entries. -/
theorem Invoker.Sound.result_iff (h : i.Sound p) {k : Fin 8} (hk : p.counts k = true) :
    i.result k = true ↔ ∃ key, i.entry key k = true := by
  have hresult : i.result k = (Lib.TreeMap.count (fun b : Bitset => b k) i.entries != 0) := (h.counters k hk).result
  rw [hresult, bne_iff_ne, ne_eq, Lib.TreeMap.count_eq_zero_iff]
  constructor
  · intro hsome
    push Not at hsome
    obtain ⟨key, b, hb, hbit⟩ := hsome
    refine ⟨key, ?_⟩
    rw [Invoker.entry_eq, hb]
    simpa using hbit
  · rintro ⟨key, hentry⟩ hnone
    rw [Invoker.entry_eq, Option.any_eq_true] at hentry
    obtain ⟨b, hb, hbit⟩ := hentry
    rw [hnone key b hb] at hbit
    cases hbit

theorem Invoker.Sound.result_unused (h : i.Sound p) {k : Fin 8} (hk : p.counts k = false) : i.result k = false := by
  rw [Invoker.result, h.unused k hk]

/-! ## The helper -/

/-- The counters of the helper count its invokers, an invoker is there for as long as one of its bits
is, and what it holds is what was asked for. -/
structure Balanced (p : Params) (h : Helper) (r : Requests) : Prop where
  sound : ∀ (remote : String) (i : Invoker), h.invokers[remote]? = some i → i.Sound p ∧ i.result.isZero = false
  counters : ∀ k, p.counts k = true →
    Counts (h.counters k) (Lib.TreeMap.count (fun i : Invoker => i.result k) h.invokers)
  unused : ∀ k, p.counts k = false → h.counters k = {}
  requests : ∀ remote key k, p.counts k = true → r remote key k = (h.invoker remote).entry key k
  noUnderflow : h.underflow = false

/-- What was reported last is up to date. -/
def Reports (p : Params) (h : Helper) : Prop :=
  ∀ v, h.reported = some v → p.hasOnChange = true ∧ v = h.result.xor p.defaultParam

variable {r : Requests}

theorem Helper.invoker_result (h : Helper) (remote : String) (k : Fin 8) :
    (h.invoker remote).result k = h.invokers[remote]?.any fun i => i.result k := by
  rw [Helper.invoker]
  cases h.invokers[remote]? <;> rfl

theorem Balanced.invoker_sound (hb : Balanced p h r) (remote : String) : (h.invoker remote).Sound p := by
  rw [Helper.invoker]
  cases hi : h.invokers[remote]? with
  | none => exact Invoker.sound_fresh
  | some i => exact (hb.sound remote i hi).1

theorem Balanced.onChange (hb : Balanced p h r) : Balanced p (h.onChange p) r := by
  rw [Helper.onChange]
  split <;> exact ⟨hb.sound, hb.counters, hb.unused, hb.requests, hb.noUnderflow⟩

theorem Balanced.setRecipient (hb : Balanced p h r) (remote : String) (attached : Bool) :
    Balanced p (h.setRecipient remote attached) r :=
  ⟨hb.sound, hb.counters, hb.unused, hb.requests, hb.noUnderflow⟩

theorem Balanced.watch (hb : Balanced p h r) (remote : String) (previous result : Bitset) :
    Balanced p (h.watch remote previous result) r := by
  rw [Helper.watch]
  split
  · exact hb.setRecipient remote true
  · split
    · exact hb.setRecipient remote false
    · exact hb

theorem reports_onChange (hsilent : ∀ v, h.reported = some v → p.hasOnChange = true) : Reports p (h.onChange p) := by
  intro v hv
  rw [Helper.onChange] at hv ⊢
  split
  next hcallback =>
    rw [if_pos hcallback] at hv
    cases hv
    exact ⟨hcallback, rfl⟩
  next hnone =>
    rw [if_neg hnone] at hv
    exact absurd (hsilent v hv) hnone

@[simp] theorem Helper.watch_reported (remote : String) (previous result : Bitset) :
    (h.watch remote previous result).reported = h.reported := by
  rw [Helper.watch]
  split
  · rfl
  · split <;> rfl

/-- An invoker none of whose bits is left has no entry with a bit that counts. -/
theorem Invoker.Sound.entry_of_isZero (hi : i.Sound p) (hzero : i.result.isZero = true) {k : Fin 8}
    (hk : p.counts k = true) (key : Int) : i.entry key k = false := by
  by_contra hentry
  rw [Bool.not_eq_false] at hentry
  have hresult := (hi.result_iff hk).mpr ⟨key, hentry⟩
  rw [(Bitset.isZero_iff _).mp hzero k] at hresult
  cases hresult

/-- Erasing it loses nothing that counts. -/
theorem Invoker.Sound.entry_store (hi : i.Sound p) {k : Fin 8} (hk : p.counts k = true) (key : Int) :
    ((if i.result.isZero then none else some i).getD {}).entry key k = i.entry key k := by
  split
  next hzero =>
    rw [hi.entry_of_isZero hzero hk key, Invoker.entry_eq]
    rfl
  next => rfl

/-- The table after `Set`: the invoker of the remote object is the one that `SetValue` left, as far as
it counts. -/
theorem getElem?_store (t : TreeMap String Invoker) (remote remote' : String) (i : Invoker) :
    (if i.result.isZero then t.erase remote else t.insert remote i)[remote']? =
      if remote = remote' then (if i.result.isZero then none else some i) else t[remote']? := by
  split
  · rw [Lib.TreeMap.getElem?_erase_eq]
  · rw [Lib.TreeMap.getElem?_insert_eq]

theorem Balanced.setValue (hb : Balanced p h r) (remote : String) (key : Int) (delta : Bitset) :
    Balanced p (h.setValue p remote key delta) (r.set remote key delta) := by
  have hsound := hb.invoker_sound remote
  obtain ⟨hsound', hunder⟩ := hsound.setValue key delta
  -- what the helper counts changes at this one invoker
  have hstep : ∀ k, p.counts k = true →
      Counts ((h.counters k).change ((h.invoker remote).result k) (((h.invoker remote).setValue p key delta).result k))
        (Lib.TreeMap.count (fun i : Invoker => i.result k)
          (if ((h.invoker remote).setValue p key delta).result.isZero then h.invokers.erase remote
            else h.invokers.insert remote ((h.invoker remote).setValue p key delta))) ∧
      (h.counters k).underflows ((h.invoker remote).result k)
        (((h.invoker remote).setValue p key delta).result k) = false := by
    intro k hk
    apply Counter.change_counts (hb.counters k hk)
    have hagree := Lib.TreeMap.count_agree (fun i : Invoker => i.result k) h.invokers
      (if ((h.invoker remote).setValue p key delta).result.isZero then h.invokers.erase remote
        else h.invokers.insert remote ((h.invoker remote).setValue p key delta)) remote
      fun remote' hne => by rw [getElem?_store, if_neg fun hsame => hne hsame.symm]
    rw [getElem?_store, if_pos rfl, ← Helper.invoker_result] at hagree
    have hnew : (if ((h.invoker remote).setValue p key delta).result.isZero then none
        else some ((h.invoker remote).setValue p key delta)).any (fun i : Invoker => i.result k) =
        ((h.invoker remote).setValue p key delta).result k := by
      split
      next hzero => exact ((Bitset.isZero_iff _).mp hzero k).symm
      next => rfl
    rw [hnew] at hagree
    exact hagree
  apply Balanced.onChange
  apply Balanced.watch
  refine ⟨fun remote' i hi => ?_, fun k hk => ?_, fun k hk => ?_, fun remote' key' k hk => ?_, ?_⟩
  · simp only [getElem?_store] at hi
    split at hi
    · split at hi
      next => cases hi
      next hkept =>
        cases hi
        exact ⟨hsound', Bool.eq_false_iff.mpr hkept⟩
    · exact hb.sound remote' i hi
  · simp only [hk, if_true]
    exact (hstep k hk).1
  · simp only [hk, Bool.false_eq_true, if_false]
    exact hb.unused k hk
  · have hstored := congrArg (fun stored => stored.getD {})
      (getElem?_store h.invokers remote remote' ((h.invoker remote).setValue p key delta))
    refine Eq.trans ?_ (congrArg (fun i : Invoker => i.entry key' k) hstored).symm
    simp only [Requests.set]
    by_cases hremote : remote' = remote
    · subst hremote
      have hentry := hsound'.entry_store hk key'
      rw [Invoker.setValue_entry] at hentry
      rw [if_pos rfl]
      refine Eq.trans ?_ hentry.symm
      by_cases hkey : key' = key
      · rw [if_pos hkey, if_pos ⟨rfl, hkey⟩]
      · rw [if_neg hkey, if_neg fun hsame => hkey hsame.2]
        exact hb.requests remote' key' k hk
    · rw [if_neg fun hsame => hremote hsame.1, if_neg fun hsame => hremote hsame.symm]
      exact hb.requests remote' key' k hk
  · rw [Bool.or_eq_false_iff, decide_eq_false_iff_not]
    refine ⟨hb.noUnderflow, ?_⟩
    rintro ⟨k, hk, hentry | hinvoker⟩
    · exact Bool.false_ne_true ((hunder k hk).symm.trans hentry)
    · exact Bool.false_ne_true ((hstep k hk).2.symm.trans hinvoker)

theorem Balanced.removeInvoker (hb : Balanced p h r) (remote : String) :
    Balanced p (h.removeInvoker p remote).1 (r.drop remote) := by
  rw [Helper.removeInvoker]
  cases hi : h.invokers[remote]? with
  | none =>
    refine ⟨hb.sound, hb.counters, hb.unused, fun remote' key k hk => ?_, hb.noUnderflow⟩
    rw [Requests.drop]
    split
    next hsame =>
      subst hsame
      rw [Helper.invoker, hi, Invoker.entry_eq]
      rfl
    next => exact hb.requests remote' key k hk
  | some i =>
    have hstep : ∀ k, p.counts k = true →
        Counts ((h.counters k).remove (i.result k))
          (Lib.TreeMap.count (fun i : Invoker => i.result k) (h.invokers.erase remote)) ∧
        ¬ (i.result k = true ∧ (h.counters k).sum = 0) := by
      intro k hk
      apply Counter.remove_counts (hb.counters k hk)
      have hagree := Lib.TreeMap.count_agree (fun i : Invoker => i.result k) h.invokers (h.invokers.erase remote) remote
        fun remote' hne => by rw [Lib.TreeMap.getElem?_erase_eq, if_neg fun hsame => hne hsame.symm]
      rw [Lib.TreeMap.getElem?_erase_eq, if_pos rfl, hi] at hagree
      exact hagree
    apply Balanced.onChange
    refine ⟨fun remote' i' hi' => ?_, fun k hk => ?_, fun k hk => ?_, fun remote' key k hk => ?_, ?_⟩
    · simp only [Lib.TreeMap.getElem?_erase_eq] at hi'
      split at hi'
      · cases hi'
      · exact hb.sound remote' i' hi'
    · simp only [hk, if_true]
      exact (hstep k hk).1
    · simp only [hk, Bool.false_eq_true, if_false]
      exact hb.unused k hk
    · simp only [Requests.drop, Helper.invoker, Lib.TreeMap.getElem?_erase_eq]
      by_cases hsame : remote' = remote
      · rw [if_pos hsame, if_pos hsame.symm, Invoker.entry_eq]
        rfl
      · rw [if_neg hsame, if_neg fun h => hsame h.symm]
        exact hb.requests remote' key k hk
    · rw [Bool.or_eq_false_iff, decide_eq_false_iff_not]
      refine ⟨hb.noUnderflow, ?_⟩
      rintro ⟨k, hk, hzero⟩
      exact (hstep k hk).2 hzero

/-! ## Calls -/

theorem Reports.setValue (hr : Reports p h) (remote : String) (key : Int) (delta : Bitset) :
    Reports p (h.setValue p remote key delta) := by
  apply reports_onChange
  intro v hv
  rw [Helper.watch_reported] at hv
  exact (hr v hv).1

theorem Reports.removeInvoker (hr : Reports p h) (remote : String) : Reports p (h.removeInvoker p remote).1 := by
  rw [Helper.removeInvoker]
  cases h.invokers[remote]? with
  | none => exact hr
  | some i => exact reports_onChange fun v hv => (hr v hv).1

theorem balanced_next (hb : Balanced p h r) (e : Event) : Balanced p (h.next p e) (r.next p e) := by
  cases e with
  | set remote invokerPid appid input =>
    cases remote with
    | none => exact hb
    | some remote => exact hb.setValue remote _ _
  | removeInvoker remote => exact hb.removeInvoker remote
  | onRemoteDied remote promoted =>
    cases promoted with
    | false => exact hb
    | true => exact (hb.removeInvoker remote).setRecipient remote false

theorem reports_next (hr : Reports p h) (e : Event) : Reports p (h.next p e) := by
  cases e with
  | set remote invokerPid appid input =>
    cases remote with
    | none => exact hr
    | some remote => exact hr.setValue remote _ _
  | removeInvoker remote => exact hr.removeInvoker remote
  | onRemoteDied remote promoted =>
    cases promoted with
    | false => exact hr
    | true => exact hr.removeInvoker remote

theorem balanced_of_reachable {s : State} (hs : (system p).Reachable s) :
    Balanced p s.helper s.requests ∧ Reports p s.helper := by
  refine Lib.System.Reach.invariant (I := fun s => Balanced p s.helper s.requests ∧ Reports p s.helper)
    (fun s hs => ?_) (fun s s' e ih _ hnext => ?_) hs
  · cases hs
    refine ⟨⟨nofun, fun k _ => ?_, fun _ _ => rfl, fun _ _ _ _ => rfl, rfl⟩, nofun⟩
    exact counts_fresh
  · cases hnext
    exact ⟨balanced_next ih.1 e, reports_next ih.2 e⟩

/-! ## Death recipients -/

/-- The helper is registered at exactly the remote objects whose invokers it stores. -/
def Watched (h : Helper) : Prop :=
  ∀ remote, h.recipients remote = (h.invokers[remote]?).isSome

theorem Balanced.isSome_iff (hb : Balanced p h r) (remote : String) :
    (h.invokers[remote]?).isSome = !(h.invoker remote).result.isZero := by
  rw [Helper.invoker]
  cases hi : h.invokers[remote]? with
  | none =>
    have hzero : (Invoker.result {}).isZero = true := (Bitset.isZero_iff _).mpr fun _ => rfl
    rw [Option.getD_none, hzero]
    rfl
  | some i =>
    rw [Option.getD_some, (hb.sound remote i hi).2]
    rfl

theorem watched_onChange (hw : Watched h) : Watched (h.onChange p) := by
  rw [Helper.onChange]
  split <;> exact hw

@[simp] theorem Helper.watch_invokers (remote : String) (previous result : Bitset) :
    (h.watch remote previous result).invokers = h.invokers := by
  rw [Helper.watch]
  split
  · rfl
  · split <;> rfl

theorem Helper.watch_recipients {remote : String} {previous : Bitset} (result : Bitset)
    (hprevious : h.recipients remote = !previous.isZero) (remote' : String) :
    (h.watch remote previous result).recipients remote' =
      if remote' = remote then !result.isZero else h.recipients remote' := by
  rw [Helper.watch]
  cases hbefore : previous.isZero <;> cases hafter : result.isZero <;> rw [hbefore] at hprevious
  · -- the invoker stays
    simp only [Bool.not_false, Bool.and_true, Bool.false_eq_true, if_false, Bool.and_false]
    split
    next hsame => rw [hsame, hprevious]; rfl
    next => rfl
  · rfl
  · rfl
  · simp only [Bool.not_true, Bool.and_false, Bool.false_eq_true, if_false, Bool.and_true]
    split
    next hsame => rw [hsame, hprevious]; rfl
    next => rfl

theorem watched_setValue (hb : Balanced p h r) (hw : Watched h) (remote : String) (key : Int) (delta : Bitset) :
    Watched (h.setValue p remote key delta) := by
  apply watched_onChange
  intro remote'
  rw [Helper.watch_invokers, getElem?_store]
  refine Eq.trans (Helper.watch_recipients _ ?_ remote') ?_
  · exact (hw remote).trans (hb.isSome_iff remote)
  by_cases hremote : remote' = remote
  · rw [if_pos hremote, if_pos hremote.symm]
    split
    next hzero =>
      rw [hzero]
      rfl
    next hzero =>
      rw [Bool.eq_false_iff.mpr hzero]
      rfl
  · have hother : ¬ remote = remote' := fun hsame => hremote hsame.symm
    rw [if_neg hremote, if_neg hother]
    exact hw remote'

theorem watched_onRemoteDied (hw : Watched h) (remote : String) (promoted : Bool) :
    Watched (h.onRemoteDied p remote promoted) := by
  rw [Helper.onRemoteDied]
  split
  · rw [Helper.removeInvoker]
    intro remote'
    cases hi : h.invokers[remote]? with
    | none =>
      simp only [Helper.setRecipient]
      split
      next hsame =>
        rw [hsame, hi]
        rfl
      next => exact hw remote'
    | some i =>
      have hinvokers : ∀ h' : Helper, (h'.onChange p).invokers = h'.invokers := by
        intro h'
        rw [Helper.onChange]
        split <;> rfl
      have hrecipients : ∀ h' : Helper, (h'.onChange p).recipients = h'.recipients := by
        intro h'
        rw [Helper.onChange]
        split <;> rfl
      simp only [Helper.setRecipient, hinvokers, hrecipients, Lib.TreeMap.getElem?_erase_eq]
      by_cases hsame : remote' = remote
      · rw [if_pos hsame, if_pos hsame.symm]
        rfl
      · rw [if_neg hsame, if_neg fun h => hsame h.symm]
        exact hw remote'
  · exact hw

/-! ## The result -/

theorem Balanced.result_iff (hb : Balanced p h r) {k : Fin 8} (hk : p.counts k = true) :
    h.result k = true ↔ r.wanted k := by
  have hresult : h.result k = (Lib.TreeMap.count (fun i : Invoker => i.result k) h.invokers != 0) :=
    (hb.counters k hk).result
  rw [hresult, bne_iff_ne, ne_eq, Lib.TreeMap.count_eq_zero_iff]
  constructor
  · intro hsome
    push Not at hsome
    obtain ⟨remote, i, hi, hbit⟩ := hsome
    rw [ne_eq, Bool.not_eq_false] at hbit
    obtain ⟨key, hentry⟩ := ((hb.sound remote i hi).1.result_iff hk).mp hbit
    refine ⟨remote, key, ?_⟩
    rw [hb.requests remote key k hk, Helper.invoker, hi]
    exact hentry
  · rintro ⟨remote, key, hwanted⟩ hnone
    rw [hb.requests remote key k hk] at hwanted
    have hbit := ((hb.invoker_sound remote).result_iff hk).mpr ⟨key, hwanted⟩
    rw [Helper.invoker_result, Option.any_eq_true] at hbit
    obtain ⟨i, hi, hbit⟩ := hbit
    rw [hnone remote i hi] at hbit
    cases hbit

/-- A request for one key of one client, as a call of `Set`. -/
structure Request where
  remote : String
  invokerPid : Int
  appid : Int
  input : Bitset

def Request.call (q : Request) : Event := .set (some q.remote) q.invokerPid q.appid q.input

/-- The client and the key that a request is for. -/
def Request.target (q : Request) : String × Int := (q.remote, inputKey q.invokerPid q.appid)

/-- The state after a list of requests. -/
def State.requestAll (p : Params) (s : State) (qs : List Request) : State :=
  qs.foldl (fun s q => s.next p q.call) s

structure ComputesOr (p : Params) (s : State) : Prop where
  entrySums : ∀ (remote : String) (i : Invoker) (k : Fin 8), s.helper.invokers[remote]? = some i →
    p.counts k = true → (i.counters k).sum = Lib.TreeMap.count (fun b : Bitset => b k) i.entries
  entryOr : ∀ (remote : String) (i : Invoker) (k : Fin 8), s.helper.invokers[remote]? = some i →
    p.counts k = true → (i.result k = true ↔ ∃ (key : Int) (b : Bitset), i.entries[key]? = some b ∧ b k = true)
  invokerSums : ∀ k, p.counts k = true →
    (s.helper.counters k).sum = Lib.TreeMap.count (fun i : Invoker => i.result k) s.helper.invokers
  invokerOr : ∀ k, p.counts k = true → (s.helper.result k = true ↔ 0 < (s.helper.counters k).sum)
  noUnderflow : s.helper.underflow = false
  stored : ∀ remote, (s.helper.invokers[remote]?).isSome = true ↔
    ∃ key k, p.counts k = true ∧ s.requests remote key k = true
  storedResult : ∀ (remote : String) (i : Invoker), s.helper.invokers[remote]? = some i → i.result.isZero = false
  reported : ∀ v, s.helper.reported = some v → ∀ k, p.counts k = true →
    ((v k ^^ p.defaultParam k) = true ↔ s.requests.wanted k)

theorem Balanced.computesOr {s : State} (hb : Balanced p s.helper s.requests) (hr : Reports p s.helper) :
    ComputesOr p s := by
  refine ⟨fun remote i k hi hk => ?_, fun remote i k hi hk => ?_, fun k hk => ?_, fun k hk => ?_, hb.noUnderflow,
    fun remote => ?_, fun remote i hi => ?_, fun v hv k hk => ?_⟩
  · exact ((hb.sound remote i hi).1.counters k hk).sum
  · rw [(hb.sound remote i hi).1.result_iff hk]
    simp only [Invoker.entry_eq, Option.any_eq_true]
  · exact (hb.counters k hk).sum
  · have hresult : s.helper.result k = _ := (hb.counters k hk).result
    rw [hresult, (hb.counters k hk).sum, bne_iff_ne, Nat.pos_iff_ne_zero]
  · rw [hb.isSome_iff remote, Bool.not_eq_true', Bool.eq_false_iff, ne_eq, Bitset.isZero_iff]
    have hsound := hb.invoker_sound remote
    constructor
    · intro hsome
      push Not at hsome
      obtain ⟨k, hbit⟩ := hsome
      rw [ne_eq, Bool.not_eq_false] at hbit
      have hk : p.counts k = true := by
        by_contra hunused
        rw [hsound.result_unused (Bool.eq_false_iff.mpr hunused)] at hbit
        cases hbit
      obtain ⟨key, hentry⟩ := (hsound.result_iff hk).mp hbit
      exact ⟨key, k, hk, (hb.requests remote key k hk).trans hentry⟩
    · rintro ⟨key, k, hk, hrequest⟩ hzero
      rw [hb.requests remote key k hk] at hrequest
      have hbit := (hsound.result_iff hk).mpr ⟨key, hrequest⟩
      rw [hzero k] at hbit
      cases hbit
  · exact (hb.sound remote i hi).2
  · obtain ⟨-, rfl⟩ := hr v hv
    rw [← hb.result_iff hk, Bitset.xor]
    cases s.helper.result k <;> cases p.defaultParam k <;> simp

/-- Requests for different targets may be made in either order. -/
theorem Requests.set_comm {q q' : Request} (hne : q.target ≠ q'.target) (r : Requests) :
    (r.next p q.call).next p q'.call = (r.next p q'.call).next p q.call := by
  funext remote key
  simp only [Request.call, Requests.next, Requests.set]
  split
  next hq' =>
    rw [if_neg]
    rintro ⟨hremote, hkey⟩
    exact hne (Prod.ext (hremote.symm.trans hq'.1) (hkey.symm.trans hq'.2))
  next => rfl

theorem State.requestAll_requests (s : State) (qs : List Request) :
    (s.requestAll p qs).requests = qs.foldl (fun r q => r.next p q.call) s.requests := by
  induction qs generalizing s with
  | nil => rfl
  | cons q qs ih => exact ih (s.next p q.call)

theorem State.requestAll_balanced {s : State} (hb : Balanced p s.helper s.requests) (qs : List Request) :
    Balanced p (s.requestAll p qs).helper (s.requestAll p qs).requests := by
  induction qs generalizing s with
  | nil => exact hb
  | cons q qs ih => exact ih (balanced_next hb q.call)

theorem Balanced.result_congr {h' : Helper} (hb : Balanced p h r) (hb' : Balanced p h' r) : h.result = h'.result := by
  funext k
  cases hk : p.counts k with
  | true =>
    rw [Bool.eq_iff_iff, hb.result_iff hk, hb'.result_iff hk]
  | false => rw [Helper.result, Helper.result, hb.unused k hk, hb'.unused k hk]

end PowerMgr.MultiInvoker
