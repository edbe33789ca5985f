import Mathlib.Data.List.Count
import Mathlib.Data.List.Nodup
import Mathlib.Data.Finset.Card
import Mathlib.Tactic.Linarith

/-! # Counting in finite ordered maps

`Std.TreeMap` is the ordered map of the standard library.  The development needs
three things on top of its lemma library: look-up equations stated with equality
of keys instead of comparison results, the number of values that satisfy a test,
and how that number changes when one key changes.
-/

namespace PowerMgr.Lib.TreeMap

open Std

universe u v

variable {κ : Type u} {α : Type v} [Ord κ] [TransOrd κ] [LawfulEqOrd κ]

/-! ## Look-up with equality of keys -/

theorem getElem?_modify_eq [DecidableEq κ] (t : TreeMap κ α) (k k' : κ) (f : α → α) :
    (t.modify k f)[k']? = if k = k' then t[k]?.map f else t[k']? := by
  simp only [TreeMap.getElem?_modify, LawfulEqCmp.compare_eq_iff_eq]

theorem getElem?_insert_eq [DecidableEq κ] (t : TreeMap κ α) (k k' : κ) (a : α) :
    (t.insert k a)[k']? = if k = k' then some a else t[k']? := by
  simp only [TreeMap.getElem?_insert, LawfulEqCmp.compare_eq_iff_eq]

theorem getElem?_erase_eq [DecidableEq κ] (t : TreeMap κ α) (k k' : κ) :
    (t.erase k)[k']? = if k = k' then none else t[k']? := by
  simp only [TreeMap.getElem?_erase, LawfulEqCmp.compare_eq_iff_eq]

theorem getElem?_insertIfNew_eq [DecidableEq κ] (t : TreeMap κ α) (k k' : κ) (a : α) :
    (t.insertIfNew k a)[k']? = if k = k' then some (t[k]?.getD a) else t[k']? := by
  simp only [TreeMap.getElem?_insertIfNew, LawfulEqCmp.compare_eq_iff_eq]
  by_cases hk : k = k'
  · subst hk
    by_cases hmem : k ∈ t
    · rw [TreeMap.mem_iff_isSome_getElem?] at hmem
      obtain ⟨v, hv⟩ := Option.isSome_iff_exists.mp hmem
      simp [hv, TreeMap.mem_iff_isSome_getElem?]
    · simp [hmem]
  · simp [hk]

/-- Inserting, unless they are there already, the values of a list that pass a test. -/
theorem getElem?_foldl_insertIfNew [DecidableEq κ] (p : α → Bool) (items : List (κ × α))
    (hnodup : (items.map Prod.fst).Nodup) (t : TreeMap κ α) (k : κ) (a : α) :
    (items.foldl (fun t item => if p item.2 then t.insertIfNew item.1 item.2 else t) t)[k]? = some a ↔
      t[k]? = some a ∨ t[k]? = none ∧ (k, a) ∈ items ∧ p a = true := by
  induction items generalizing t with
  | nil => simp
  | cons first rest ih =>
    obtain ⟨hfirst, hrest⟩ := List.nodup_cons.mp hnodup
    rw [List.foldl_cons, ih hrest]
    by_cases hkey : first.1 = k
    · have habsent : (k, a) ∉ rest := fun hmem => hfirst (List.mem_map.mpr ⟨(k, a), hmem, hkey.symm⟩)
      subst hkey
      have hhead : (first.1, a) ∈ first :: rest ↔ a = first.2 := by
        simp [habsent, Prod.ext_iff]
      rw [hhead]
      by_cases hp : p first.2 = true
      · rw [if_pos hp, getElem?_insertIfNew_eq, if_pos rfl]
        cases t[first.1]? with
        | none => grind
        | some b => simp
      · rw [if_neg hp]
        grind
    · have hne : (k, a) ≠ first := fun heq => hkey (heq ▸ rfl)
      by_cases hp : p first.2 = true
      · simp [hp, getElem?_insertIfNew_eq, hkey, hne]
      · simp [hp, hne]

/-! ## The entries of a map as a list -/

omit [LawfulEqOrd κ] in
theorem nodup_map_fst_toList (t : TreeMap κ α) : (t.toList.map Prod.fst).Nodup := by
  rw [TreeMap.map_fst_toList_eq_keys]
  exact TreeMap.nodup_keys

theorem lookup_toList [DecidableEq κ] (t : TreeMap κ α) (k : κ) : t.toList.lookup k = t[k]? := by
  have hmem : ∀ (items : List (κ × α)), (items.map Prod.fst).Nodup →
      ∀ a, items.lookup k = some a ↔ (k, a) ∈ items := by
    intro items hnodup a
    induction items with
    | nil => simp
    | cons first rest ih =>
      obtain ⟨hfirst, hrest⟩ := List.nodup_cons.mp hnodup
      rw [List.lookup_cons]
      by_cases hkey : k = first.1
      · have habsent : (k, a) ∉ rest := fun hmem => hfirst (List.mem_map.mpr ⟨(k, a), hmem, hkey⟩)
        simp [hkey ▸ habsent, hkey, Prod.ext_iff, eq_comm]
      · rw [beq_false_of_ne hkey]
        simp [ih hrest, hkey, Prod.ext_iff]
  refine Option.ext fun a => ?_
  rw [hmem _ (nodup_map_fst_toList t), TreeMap.mem_toList_iff_getElem?_eq_some]

/-! ## The number of values that pass a test -/

/-- How many entries of `t` hold a value that satisfies `p`. -/
def count (p : α → Bool) (t : TreeMap κ α) : Nat :=
  t.toList.countP fun kv => p kv.2

/-- The keys whose value satisfies `p`. -/
def satisfying [DecidableEq κ] (p : α → Bool) (t : TreeMap κ α) : Finset κ :=
  ((t.toList.filter fun kv => p kv.2).map Prod.fst).toFinset

theorem mem_satisfying [DecidableEq κ] (p : α → Bool) (t : TreeMap κ α) (k : κ) :
    k ∈ satisfying p t ↔ t[k]?.any p = true := by
  simp only [satisfying, List.mem_toFinset, List.mem_map, List.mem_filter, Prod.exists,
    TreeMap.mem_toList_iff_getElem?_eq_some]
  constructor
  · rintro ⟨k', a, ⟨hfound, hp⟩, rfl⟩
    simp [hfound, hp]
  · intro h
    cases hfound : t[k]? with
    | none => simp [hfound] at h
    | some a => exact ⟨k, a, ⟨hfound, by simpa [hfound] using h⟩, rfl⟩

omit [LawfulEqOrd κ] in
theorem count_eq_card [DecidableEq κ] (p : α → Bool) (t : TreeMap κ α) :
    count p t = (satisfying p t).card := by
  have hsub : ((t.toList.filter fun kv => p kv.2).map Prod.fst).Nodup :=
    (nodup_map_fst_toList t).sublist (List.filter_sublist.map Prod.fst)
  rw [satisfying, List.toFinset_card_of_nodup hsub, List.length_map, count, List.countP_eq_length_filter]

/-- The count depends only on which keys hold a value that passes. -/
theorem count_congr {β : Type v} [DecidableEq κ] {p : α → Bool} {q : β → Bool} {t : TreeMap κ α}
    {t' : TreeMap κ β} (h : ∀ k : κ, t[k]?.any p = t'[k]?.any q) : count p t = count q t' := by
  rw [count_eq_card, count_eq_card]
  congr 1
  ext k
  rw [mem_satisfying, mem_satisfying, h k]

/-- Splitting one key off the count. -/
theorem count_split [DecidableEq κ] (p : α → Bool) (t : TreeMap κ α) (k : κ) :
    count p t = ((satisfying p t).erase k).card + (t[k]?.any p).toNat := by
  rw [count_eq_card]
  by_cases hk : k ∈ satisfying p t
  · rw [(mem_satisfying p t k).mp hk, Bool.toNat_true, Finset.card_erase_add_one hk]
  · have hfalse : t[k]?.any p = false := by
      simpa [mem_satisfying] using hk
    rw [Finset.erase_eq_of_notMem hk, hfalse, Bool.toNat_false, Nat.add_zero]

/-- Two maps that pass the test at the same keys but `k` differ in their counts by what they hold
at `k`. -/
theorem count_agree [DecidableEq κ] (p : α → Bool) (t t' : TreeMap κ α) (k : κ)
    (h : ∀ k' : κ, k' ≠ k → t'[k']?.any p = t[k']?.any p) :
    count p t' + (t[k]?.any p).toNat = count p t + (t'[k]?.any p).toNat := by
  have hrest : (satisfying p t').erase k = (satisfying p t).erase k := by
    ext k'
    simp only [Finset.mem_erase, mem_satisfying]
    constructor <;> rintro ⟨hne, hp⟩ <;> refine ⟨hne, ?_⟩
    · rwa [h k' hne] at hp
    · rwa [h k' hne]
  rw [count_split p t' k, count_split p t k, hrest]
  omega

omit [TransOrd κ] [LawfulEqOrd κ] in
theorem count_le_size (p : α → Bool) (t : TreeMap κ α) : count p t ≤ t.size := by
  rw [← TreeMap.length_toList]
  exact List.countP_le_length

theorem count_eq_size_iff (p : α → Bool) (t : TreeMap κ α) :
    count p t = t.size ↔ ∀ (k : κ) (a : α), t[k]? = some a → p a = true := by
  rw [← TreeMap.length_toList, count, List.countP_eq_length]
  constructor
  · intro h k a hk
    exact h (k, a) (TreeMap.mem_toList_iff_getElem?_eq_some.mpr hk)
  · rintro h ⟨k, a⟩ hmem
    exact h k a (TreeMap.mem_toList_iff_getElem?_eq_some.mp hmem)

theorem count_eq_zero_iff (p : α → Bool) (t : TreeMap κ α) :
    count p t = 0 ↔ ∀ (k : κ) (a : α), t[k]? = some a → p a = false := by
  rw [count, List.countP_eq_zero]
  constructor
  · intro h k a hk
    simpa using h (k, a) (TreeMap.mem_toList_iff_getElem?_eq_some.mpr hk)
  · rintro h ⟨k, a⟩ hmem
    simpa using h k a (TreeMap.mem_toList_iff_getElem?_eq_some.mp hmem)

theorem count_pos {p : α → Bool} {t : TreeMap κ α} {k : κ} {a : α} (hk : t[k]? = some a)
    (hp : p a = true) : 0 < count p t := by
  refine Nat.pos_of_ne_zero fun hzero => ?_
  rw [count_eq_zero_iff] at hzero
  simp [hzero k a hk] at hp

/-! ## Sets -/

theorem nodup_toList (t : TreeSet κ) : t.toList.Nodup :=
  TreeSet.distinct_toList.imp fun hne heq => hne (LawfulEqCmp.compare_eq_iff_eq.mpr heq)

/-- An ordered set lists each of its elements once. -/
theorem count_toList [DecidableEq κ] (t : TreeSet κ) (k : κ) : t.toList.count k = if k ∈ t then 1 else 0 := by
  split_ifs with hmem
  · exact List.count_eq_one_of_mem (nodup_toList t) (TreeSet.mem_toList.mpr hmem)
  · exact List.count_eq_zero_of_not_mem fun hlist => hmem (TreeSet.mem_toList.mp hlist)

end PowerMgr.Lib.TreeMap
