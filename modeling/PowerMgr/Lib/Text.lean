import Mathlib.Data.List.TakeWhile
import Mathlib.Tactic.Common

/-! # Numbers in texts, and texts in texts

* `parseLong?` — a text read by `strtoll`, which has to get to its end; `parseLong?_toString` is the way
  back from `std::to_string`.
* `replaceAll` — every occurrence of a marker, found from the left, gives way to a text;
  `replaceAll_inj` tells the texts apart again.
-/

namespace PowerMgr.Lib.Text

/-! ## Numbers -/

def longMin : Int := -9223372036854775808

def longMax : Int := 9223372036854775807

def isSpace (c : Char) : Bool :=
  c = ' ' || c = '\t' || c = '\n' || c = '\x0b' || c = '\x0c' || c = '\r'

/-- `strtoll` to the base 10: the number, cut off at the bounds, and what is left of the text.  Without a
digit the number is 0 and nothing has been read. -/
def strtoll (text : List Char) : Int × List Char :=
  let body := text.dropWhile isSpace
  let (negative, digits) := match body with
    | '-' :: rest => (true, rest)
    | '+' :: rest => (false, rest)
    | rest => (false, rest)
  let number := digits.takeWhile Char.isDigit
  if number = [] then (0, text)
  else
    let magnitude : Int := Nat.ofDigitChars 10 number 0
    (max longMin (min longMax (if negative then -magnitude else magnitude)), digits.dropWhile Char.isDigit)

/-- The text ends at its first NUL; all of it has to be read. -/
def parseLong? (text : String) : Option Int :=
  let text := text.toList.takeWhile fun c => decide (c ≠ '\x00')
  if (strtoll text).2 = [] then some (strtoll text).1 else none

theorem isSpace_of_isDigit {c : Char} (h : c.isDigit = true) : isSpace c = false := by
  cases hspace : isSpace c with
  | false => rfl
  | true =>
    simp only [isSpace, Bool.or_eq_true, decide_eq_true_eq] at hspace
    obtain ((((rfl | rfl) | rfl) | rfl) | rfl) | rfl := hspace <;> revert h <;> decide

/-- A text that begins with a digit or a sign is read from its first character. -/
theorem dropWhile_isSpace {c : Char} {text : List Char} (h : isSpace c = false) :
    (c :: text).dropWhile isSpace = c :: text := by
  rw [List.dropWhile_cons_of_neg]
  simp [h]

theorem strtoll_digits {number : List Char} (hne : number ≠ []) (hdigit : ∀ c ∈ number, c.isDigit = true) :
    strtoll number = (max longMin (min longMax (Nat.ofDigitChars 10 number 0)), []) := by
  cases number with
  | nil => exact absurd rfl hne
  | cons c rest =>
    have hfirst : c.isDigit = true := hdigit c List.mem_cons_self
    have htake : (c :: rest).takeWhile Char.isDigit = c :: rest := List.takeWhile_eq_self_iff.mpr hdigit
    have hdrop : (c :: rest).dropWhile Char.isDigit = [] := List.dropWhile_eq_nil_iff.mpr hdigit
    have hsign : (match c :: rest with
        | '-' :: rest => (true, rest)
        | '+' :: rest => (false, rest)
        | rest => (false, rest)) = (false, c :: rest) := by
      split
      next heq =>
        cases heq
        exact absurd hfirst (by decide)
      next heq =>
        cases heq
        exact absurd hfirst (by decide)
      next => rfl
    simp only [strtoll, dropWhile_isSpace (isSpace_of_isDigit hfirst), hsign, htake, hdrop]
    rfl

theorem strtoll_negative {number : List Char} (hne : number ≠ []) (hdigit : ∀ c ∈ number, c.isDigit = true) :
    strtoll ('-' :: number) = (max longMin (min longMax (-(Nat.ofDigitChars 10 number 0 : Int))), []) := by
  have htake : number.takeWhile Char.isDigit = number := List.takeWhile_eq_self_iff.mpr hdigit
  have hdrop : number.dropWhile Char.isDigit = [] := List.dropWhile_eq_nil_iff.mpr hdigit
  have hspace : isSpace '-' = false := by decide
  simp only [strtoll, dropWhile_isSpace hspace, htake, hdrop]
  rw [if_neg hne]
  rfl

theorem clamp_of_mem {value : Int} (hmin : longMin ≤ value) (hmax : value ≤ longMax) :
    max longMin (min longMax value) = value := by
  omega

theorem strtoll_repr {value : Int} (hmin : longMin ≤ value) (hmax : value ≤ longMax) :
    strtoll value.repr.toList = (value, []) := by
  rw [Int.repr_eq_if]
  split
  next hpos =>
    rw [Nat.toList_repr, strtoll_digits Nat.toDigits_ne_nil
      fun c hc => Nat.isDigit_of_mem_toDigits (by decide) (by decide) hc, Nat.ofDigitChars_ten_toDigits,
      Int.toNat_of_nonneg hpos, clamp_of_mem hmin hmax]
  next hneg =>
    rw [String.toList_append, Nat.toList_repr]
    show strtoll ('-' :: Nat.toDigits 10 _) = _
    rw [strtoll_negative Nat.toDigits_ne_nil
      fun c hc => Nat.isDigit_of_mem_toDigits (by decide) (by decide) hc, Nat.ofDigitChars_ten_toDigits,
      Int.toNat_of_nonneg (by omega), Int.neg_neg, clamp_of_mem hmin hmax]

theorem ne_nul_of_isDigit {c : Char} (h : c.isDigit = true) : c ≠ '\x00' := by
  rintro rfl
  revert h
  decide

theorem nul_notMem_repr {value : Int} : ∀ c ∈ value.repr.toList, decide (c ≠ '\x00') = true := by
  intro c hc
  rw [decide_eq_true_eq]
  rw [Int.repr_eq_if] at hc
  split at hc
  · rw [Nat.toList_repr] at hc
    exact ne_nul_of_isDigit (Nat.isDigit_of_mem_toDigits (by decide) (by decide) hc)
  · rw [String.toList_append, Nat.toList_repr] at hc
    obtain hsign | hdigit := List.mem_append.mp hc
    · have hsign : c = '-' := List.mem_singleton.mp hsign
      rw [hsign]
      decide
    · exact ne_nul_of_isDigit (Nat.isDigit_of_mem_toDigits (by decide) (by decide) hdigit)

/-- A number that was written is read again. -/
theorem parseLong?_toString {value : Int} (hmin : longMin ≤ value) (hmax : value ≤ longMax) :
    parseLong? (toString value) = some value := by
  rw [Int.toString_eq_repr]
  simp only [parseLong?, List.takeWhile_eq_self_iff.mpr nul_notMem_repr, strtoll_repr hmin hmax, if_true]

/-! ## Markers -/

section Replace

variable {α : Type} [DecidableEq α]

/-- The marker from its second element on is skipped once its first has been replaced. -/
def replaceGo (marker text : List α) : Nat → List α → List α
  | _, [] => []
  | skip + 1, _ :: rest => replaceGo marker text skip rest
  | 0, a :: rest =>
    if marker.isPrefixOf (a :: rest) then text ++ replaceGo marker text (marker.length - 1) rest
    else a :: replaceGo marker text 0 rest

def replaceAll (marker text source : List α) : List α :=
  replaceGo marker text 0 source

/-- The number of occurrences that are replaced. -/
def occurrences (marker : List α) : Nat → List α → Nat
  | _, [] => 0
  | skip + 1, _ :: rest => occurrences marker skip rest
  | 0, a :: rest =>
    if marker.isPrefixOf (a :: rest) then occurrences marker (marker.length - 1) rest + 1
    else occurrences marker 0 rest

variable {marker : List α}

theorem length_replaceGo (marker text text' : List α) (skip : Nat) (source : List α) :
    (replaceGo marker text skip source).length + occurrences marker skip source * text'.length =
      (replaceGo marker text' skip source).length + occurrences marker skip source * text.length := by
  induction source generalizing skip with
  | nil => cases skip <;> simp [replaceGo, occurrences]
  | cons a rest ih =>
    cases skip with
    | succ skip =>
      simp only [replaceGo, occurrences]
      exact ih skip
    | zero =>
      simp only [replaceGo, occurrences]
      split
      · have hrest := ih (marker.length - 1)
        simp only [List.length_append, Nat.add_mul, Nat.one_mul]
        omega
      · have hrest := ih 0
        simp only [List.length_cons]
        omega

theorem replaceGo_inj_of_length {text text' : List α} (hlength : text.length = text'.length) (skip : Nat)
    (source : List α) (hpos : 0 < occurrences marker skip source)
    (heq : replaceGo marker text skip source = replaceGo marker text' skip source) : text = text' := by
  induction source generalizing skip with
  | nil => cases skip <;> simp [occurrences] at hpos
  | cons a rest ih =>
    cases skip with
    | succ skip =>
      simp only [replaceGo, occurrences] at heq hpos
      exact ih skip hpos heq
    | zero =>
      simp only [replaceGo, occurrences] at heq hpos
      split at hpos
      next hfound =>
        rw [if_pos hfound, if_pos hfound] at heq
        exact (List.append_inj heq hlength).1
      next hnone =>
        rw [if_neg hnone, if_neg hnone] at heq
        exact ih 0 hpos (List.cons.inj heq).2

/-- A source with the marker in it tells what the marker was replaced by. -/
theorem replaceAll_inj {text text' source : List α} (hpos : 0 < occurrences marker 0 source)
    (heq : replaceAll marker text source = replaceAll marker text' source) : text = text' := by
  have hlengths := length_replaceGo marker text text' 0 source
  simp only [replaceAll] at heq
  rw [heq, Nat.add_left_cancel_iff] at hlengths
  exact replaceGo_inj_of_length (Nat.eq_of_mul_eq_mul_left hpos hlengths).symm 0 source hpos heq

end Replace

end PowerMgr.Lib.Text
