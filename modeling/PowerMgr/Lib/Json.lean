import Mathlib.Data.List.Basic
import Mathlib.Data.Option.Basic

/-!
# JSON trees with ordered members

Trees as a parser leaves them: the members of an object are kept in order, and a name may occur more
than once.  Looking up a name finds the first member of that name, and so does changing one.

* `Json.lookup`, `Json.update` — the first member of a name;
* `Json.update_comm`, `Json.update_update` — changes of two names, and two changes of one;
* `JsonText` — a parser and a printer that the parser inverts.
-/

namespace PowerMgr.Lib

universe u

/-- JSON trees whose numbers are those of `ν`. -/
inductive Json (ν : Type u) : Type u where
  | null
  | bool (value : Bool)
  | number (value : ν)
  | string (value : String)
  | array (items : List (Json ν))
  | object (members : List (String × Json ν))

namespace Json

variable {ν : Type u} {name other : String} {f g : Json ν → Json ν} {members : List (String × Json ν)}

/-- The value of the first member of that name. -/
def lookup (name : String) (members : List (String × Json ν)) : Option (Json ν) :=
  members.lookup name

theorem lookup_cons (key : String) (value : Json ν) (members : List (String × Json ν)) :
    lookup name ((key, value) :: members) = if key = name then some value else lookup name members := by
  by_cases hkey : key = name
  · subst hkey
    simp [lookup]
  · have hne : (name == key) = false := by simpa using Ne.symm hkey
    simp [lookup, List.lookup_cons, hkey, hne]

/-- Change the value of the first member of that name. -/
def update (name : String) (f : Json ν → Json ν) : List (String × Json ν) → List (String × Json ν)
  | [] => []
  | (key, value) :: members =>
    if key = name then (key, f value) :: members else (key, value) :: update name f members

@[simp] theorem lookup_update_self : lookup name (update name f members) = (lookup name members).map f := by
  induction members with
  | nil => rfl
  | cons member members ih =>
    obtain ⟨key, value⟩ := member
    by_cases hkey : key = name
    · simp [lookup_cons, update, hkey]
    · simp [lookup_cons, update, hkey, ih]

theorem lookup_update_of_ne (hne : other ≠ name) : lookup other (update name f members) = lookup other members := by
  induction members with
  | nil => rfl
  | cons member members ih =>
    obtain ⟨key, value⟩ := member
    by_cases hkey : key = name
    · subst hkey
      simp [lookup_cons, update, hne.symm]
    · by_cases hother : key = other
      · subst hother
        simp [lookup_cons, update, hkey]
      · simp [lookup_cons, update, hkey, hother, ih]

theorem update_comm (hne : name ≠ other) :
    update name f (update other g members) = update other g (update name f members) := by
  induction members with
  | nil => rfl
  | cons member members ih =>
    obtain ⟨key, value⟩ := member
    by_cases hkey : key = name
    · simp [update, hkey, hne]
    · by_cases hother : key = other
      · simp [update, hother, hne.symm]
      · simp [update, hkey, hother, ih]

@[simp] theorem update_update : update name f (update name g members) = update name (f ∘ g) members := by
  induction members with
  | nil => rfl
  | cons member members ih =>
    obtain ⟨key, value⟩ := member
    by_cases hkey : key = name
    · simp [update, hkey]
    · simp [update, hkey, ih]

/-- A change that leaves the value found, if any, as it is. -/
theorem update_eq_self (h : ∀ value, lookup name members = some value → f value = value) :
    update name f members = members := by
  induction members with
  | nil => rfl
  | cons member members ih =>
    obtain ⟨key, value⟩ := member
    by_cases hkey : key = name
    · have hvalue : f value = value := h value (by simp [lookup_cons, hkey])
      simp [update, hkey, hvalue]
    · have hrest := ih fun value' hvalue' => h value' (by simpa [lookup_cons, hkey] using hvalue')
      simp [update, hkey, hrest]

/-- Two changes that agree on the value found. -/
theorem update_congr {value : Json ν} (hvalue : lookup name members = some value) (hfg : f value = g value) :
    update name f members = update name g members := by
  induction members with
  | nil => rfl
  | cons member members ih =>
    obtain ⟨key, value'⟩ := member
    by_cases hkey : key = name
    · simp only [lookup_cons, hkey, if_true, Option.some.injEq] at hvalue
      simp [update, hkey, hvalue, hfg]
    · simp only [lookup_cons, hkey, if_false] at hvalue
      simp [update, hkey, ih hvalue]

section Split

variable {before after : List (String × Json ν)} {value : Json ν}

/-- The first member of a name, with the members around it. -/
theorem lookup_split (hfirst : ∀ member ∈ before, member.1 ≠ name) :
    lookup name (before ++ (name, value) :: after) = some value := by
  induction before with
  | nil => simp [lookup_cons]
  | cons member before ih =>
    obtain ⟨key, value'⟩ := member
    have hkey : key ≠ name := hfirst (key, value') (by simp)
    have hrest := ih fun member hmember => hfirst member (List.mem_cons_of_mem _ hmember)
    simpa [lookup_cons, hkey] using hrest

theorem update_split (hfirst : ∀ member ∈ before, member.1 ≠ name) :
    update name f (before ++ (name, value) :: after) = before ++ (name, f value) :: after := by
  induction before with
  | nil => simp [update]
  | cons member before ih =>
    obtain ⟨key, value'⟩ := member
    have hkey : key ≠ name := hfirst (key, value') (by simp)
    have hrest := ih fun member hmember => hfirst member (List.mem_cons_of_mem _ hmember)
    simpa [update, hkey] using hrest

end Split

end Json

/-- Parsing and printing; what is printed is parsed again. -/
structure JsonText (ν : Type u) where
  parse : String → Option (Json ν)
  print : Json ν → String
  parse_print : ∀ json, parse (print json) = some json

end PowerMgr.Lib
