import PowerMgr.Lib.Json

/-!
# Compact JSON

A printer without white space and a reader of what it prints, for trees whose numbers are single
digits.  A quotation mark or a backslash in a string is preceded by a backslash.

* `compact` — the printer with the reader, as a `JsonText`.
-/

namespace PowerMgr.Lib.CompactJson

abbrev Tree := Json (Fin 10)

/-! ## Strings -/

def quote : Char := '\x22'

def backslash : Char := '\x5c'

def escape : List Char → List Char
  | [] => []
  | c :: chars => if c = quote ∨ c = backslash then backslash :: c :: escape chars else c :: escape chars

/-- A string up to its closing quotation mark; `escaped` says whether a backslash has been read. -/
def readChars : Bool → List Char → Option (List Char × List Char)
  | _, [] => none
  | true, c :: input => (readChars false input).map fun (chars, input) => (c :: chars, input)
  | false, c :: input =>
    if c = quote then some ([], input)
    else if c = backslash then readChars true input
    else (readChars false input).map fun (chars, input) => (c :: chars, input)

theorem readChars_escape (chars rest : List Char) :
    readChars false (escape chars ++ quote :: rest) = some (chars, rest) := by
  induction chars with
  | nil => simp [escape, readChars]
  | cons c chars ih =>
    have hmarks : backslash ≠ quote := by decide
    by_cases hspecial : c = quote ∨ c = backslash
    · simp [escape, hspecial, readChars, hmarks, ih]
    · obtain ⟨hquote, hbackslash⟩ := not_or.mp hspecial
      simp [escape, readChars, hquote, hbackslash, ih]

def printString (s : String) : List Char :=
  quote :: (escape s.toList ++ [quote])

def readString : List Char → Option (String × List Char)
  | [] => none
  | c :: input =>
    if c = quote then (readChars false input).map fun (chars, input) => (String.ofList chars, input) else none

@[simp] theorem readString_print (s : String) (rest : List Char) :
    readString (printString s ++ rest) = some (s, rest) := by
  simp [printString, readString, readChars_escape]

/-! ## Trees -/

def digit (d : Fin 10) : Char :=
  Char.ofNat (48 + d)

def digit? (c : Char) : Option (Fin 10) :=
  if h : 48 ≤ c.toNat ∧ c.toNat - 48 < 10 then some ⟨c.toNat - 48, h.2⟩ else none

mutual

def print : Tree → List Char
  | .null => ['n', 'u', 'l', 'l']
  | .bool true => ['t', 'r', 'u', 'e']
  | .bool false => ['f', 'a', 'l', 's', 'e']
  | .number value => [digit value]
  | .string value => printString value
  | .array [] => ['[', ']']
  | .array (item :: items) => '[' :: (print item ++ printItems items)
  | .object [] => ['\x7b', '\x7d']
  | .object ((name, value) :: members) => '\x7b' :: (printString name ++ ':' :: (print value ++ printMembers members))

/-- The items after the first, with the closing bracket. -/
def printItems : List Tree → List Char
  | [] => [']']
  | item :: items => ',' :: (print item ++ printItems items)

/-- The members after the first, with the closing brace. -/
def printMembers : List (String × Tree) → List Char
  | [] => ['\x7d']
  | (name, value) :: members => ',' :: (printString name ++ ':' :: (print value ++ printMembers members))

end

/-- Read a member, its value by the given reader. -/
def readMember (readValue : List Char → Option (Tree × List Char)) (input : List Char) :
    Option ((String × Tree) × List Char) :=
  match readString input with
  | some (name, ':' :: input) => (readValue input).map fun (value, input) => ((name, value), input)
  | _ => none

mutual

/-- Read a value; the number bounds the depth of the calls. -/
def read : Nat → List Char → Option (Tree × List Char)
  | 0, _ => none
  | _ + 1, [] => none
  | n + 1, c :: input =>
    match digit? c with
    | some value => some (.number value, input)
    | none =>
      if c = quote then (readString (c :: input)).map fun (value, input) => (.string value, input)
      else readOther n (c :: input)

/-- Read what begins with a letter or a bracket. -/
def readOther : Nat → List Char → Option (Tree × List Char)
  | _, 'n' :: 'u' :: 'l' :: 'l' :: input => some (.null, input)
  | _, 't' :: 'r' :: 'u' :: 'e' :: input => some (.bool true, input)
  | _, 'f' :: 'a' :: 'l' :: 's' :: 'e' :: input => some (.bool false, input)
  | _, '[' :: ']' :: input => some (.array [], input)
  | _, '{' :: '}' :: input => some (.object [], input)
  | n + 1, '[' :: input => do
    let (item, input) ← read n input
    let (items, input) ← readItems n input
    some (.array (item :: items), input)
  | n + 1, '{' :: input => do
    let (member, input) ← readMember (read n) input
    let (members, input) ← readMembers n input
    some (.object (member :: members), input)
  | _, _ => none

def readItems : Nat → List Char → Option (List Tree × List Char)
  | _ + 1, ']' :: input => some ([], input)
  | n + 1, ',' :: input => do
    let (item, input) ← read n input
    let (items, input) ← readItems n input
    some (item :: items, input)
  | _, _ => none

def readMembers : Nat → List Char → Option (List (String × Tree) × List Char)
  | _ + 1, '}' :: input => some ([], input)
  | n + 1, ',' :: input => do
    let (member, input) ← readMember (read n) input
    let (members, input) ← readMembers n input
    some (member :: members, input)
  | _, _ => none

end

/-! ## Reading what was printed -/

theorem digit?_digit (d : Fin 10) : digit? (digit d) = some d := by
  revert d
  decide

theorem readMember_print {readValue : List Char → Option (Tree × List Char)} {n : String} {value : Tree}
    {rest : List Char} (hvalue : readValue (print value ++ rest) = some (value, rest)) :
    readMember readValue (printString n ++ ':' :: (print value ++ rest)) = some ((n, value), rest) := by
  simp [readMember, hvalue]

/-- No value begins like the end of an array. -/
theorem print_eq_cons (json : Tree) : ∃ c input, print json = c :: input ∧ c ≠ ']' := by
  cases json with
  | null => exact ⟨_, _, rfl, by decide⟩
  | bool value => cases value <;> exact ⟨_, _, rfl, by decide⟩
  | number value =>
    refine ⟨digit value, [], rfl, ?_⟩
    revert value
    decide
  | string value => exact ⟨quote, _, rfl, by decide⟩
  | array items => cases items <;> exact ⟨_, _, rfl, by decide⟩
  | object members =>
    cases members with
    | nil => exact ⟨_, _, rfl, by decide⟩
    | cons member members => exact ⟨_, _, rfl, by decide⟩

theorem length_print_pos (json : Tree) : 0 < (print json).length := by
  obtain ⟨c, input, hprint, -⟩ := print_eq_cons json
  simp [hprint]

theorem length_printItems_pos (items : List Tree) : 0 < (printItems items).length := by
  cases items <;> simp [printItems]

theorem length_printMembers_pos (members : List (String × Tree)) : 0 < (printMembers members).length := by
  cases members <;> simp [printMembers]

/-- What is neither a digit nor a string. -/
theorem read_of_other {c : Char} {n : Nat} {input : List Char} (hdigit : digit? c = none) (hquote : c ≠ quote) :
    read (n + 1) (c :: input) = readOther n (c :: input) := by
  simp [read, hdigit, hquote]

theorem readOther_array {n : Nat} {c : Char} {input : List Char} (hc : c ≠ ']') :
    readOther (n + 1) ('[' :: c :: input) =
      (read n (c :: input)).bind fun (item, input) =>
        (readItems n input).bind fun (items, input) => some (.array (item :: items), input) := by
  rw [readOther]
  · rfl
  · intro input' heq
    simp at heq
    exact hc heq.1

theorem readOther_object {n : Nat} {name : String} {input : List Char} :
    readOther (n + 1) ('\x7b' :: (printString name ++ input)) =
      (readMember (read n) (printString name ++ input)).bind fun (member, input) =>
        (readMembers n input).bind fun (members, input) => some (.object (member :: members), input) := by
  rw [readOther]
  · rfl
  · intro input' heq
    simp [printString, quote] at heq

mutual

theorem read_print (json : Tree) (n : Nat) (rest : List Char) (hn : (print json).length ≤ n) :
    read n (print json ++ rest) = some (json, rest) := by
  match n, json with
  | 0, json => exact absurd hn (Nat.not_le.mpr (length_print_pos json))
  | n + 1, .null =>
    simp only [print, List.cons_append, List.nil_append]
    rw [read_of_other (by decide) (by decide)]
    simp [readOther]
  | n + 1, .bool true =>
    simp only [print, List.cons_append, List.nil_append]
    rw [read_of_other (by decide) (by decide)]
    simp [readOther]
  | n + 1, .bool false =>
    simp only [print, List.cons_append, List.nil_append]
    rw [read_of_other (by decide) (by decide)]
    simp [readOther]
  | n + 1, .number value => simp [print, read, digit?_digit]
  | n + 1, .string value =>
    have hstring := readString_print value rest
    have hdigit : digit? quote = none := by decide
    simp only [print, printString, List.cons_append] at hstring ⊢
    simpa [read, hdigit] using hstring
  | n + 1, .array [] =>
    simp only [print, List.cons_append, List.nil_append]
    rw [read_of_other (by decide) (by decide)]
    simp [readOther]
  | n + 1, .array (item :: items) =>
    simp only [print, List.length_cons, List.length_append] at hn
    have hpos := length_print_pos item
    have hitemsPos := length_printItems_pos items
    obtain ⟨k, rfl⟩ : ∃ k, n = k + 1 := ⟨n - 1, by omega⟩
    have hitem := read_print item k (printItems items ++ rest) (by omega)
    have hitems := readItems_print items k rest (by omega)
    obtain ⟨c, input, hprint, hc⟩ := print_eq_cons item
    simp only [print, List.cons_append, List.append_assoc]
    rw [read_of_other (by decide) (by decide)]
    rw [hprint, List.cons_append] at hitem ⊢
    rw [readOther_array hc, hitem]
    simp [hitems]
  | n + 1, .object [] =>
    simp only [print, List.cons_append, List.nil_append]
    rw [read_of_other (by decide) (by decide)]
    simp [readOther]
  | n + 1, .object ((name, value) :: members) =>
    simp only [print, printString, List.length_cons, List.length_append] at hn
    have hmembersPos := length_printMembers_pos members
    obtain ⟨k, rfl⟩ : ∃ k, n = k + 1 := ⟨n - 1, by omega⟩
    have hvalue := read_print value k (printMembers members ++ rest) (by omega)
    have hmembers := readMembers_print members k rest (by omega)
    have hmember := readMember_print (n := name) hvalue
    simp only [print, List.cons_append, List.append_assoc]
    rw [read_of_other (by decide) (by decide)]
    rw [readOther_object, hmember]
    simp [hmembers]

theorem readItems_print (items : List Tree) (n : Nat) (rest : List Char) (hn : (printItems items).length ≤ n) :
    readItems n (printItems items ++ rest) = some (items, rest) := by
  match n, items with
  | 0, items => exact absurd hn (Nat.not_le.mpr (length_printItems_pos items))
  | n + 1, [] => simp [printItems, readItems]
  | n + 1, item :: items =>
    simp only [printItems, List.length_cons, List.length_append] at hn
    have hpos := length_print_pos item
    have hitem := read_print item n (printItems items ++ rest) (by omega)
    have hitems := readItems_print items n rest (by omega)
    simp [printItems, readItems, hitem, hitems]

theorem readMembers_print (members : List (String × Tree)) (n : Nat) (rest : List Char)
    (hn : (printMembers members).length ≤ n) :
    readMembers n (printMembers members ++ rest) = some (members, rest) := by
  match n, members with
  | 0, members => exact absurd hn (Nat.not_le.mpr (length_printMembers_pos members))
  | n + 1, [] => simp [printMembers, readMembers]
  | n + 1, (name, value) :: members =>
    simp only [printMembers, printString, List.length_cons, List.length_append] at hn
    have hvalue := read_print value n (printMembers members ++ rest) (by omega)
    have hmembers := readMembers_print members n rest (by omega)
    have hmember := readMember_print (n := name) hvalue
    simp [printMembers, readMembers, hmember, hmembers]

end

/-- The whole text is one value. -/
def parse (text : String) : Option Tree :=
  match read text.toList.length text.toList with
  | some (json, []) => some json
  | _ => none

theorem parse_print (json : Tree) : parse (String.ofList (print json)) = some json := by
  have hread := read_print json (print json).length [] (Nat.le_refl _)
  rw [List.append_nil] at hread
  simp [parse, hread]

def compact : JsonText (Fin 10) where
  parse := parse
  print json := String.ofList (print json)
  parse_print := parse_print

end PowerMgr.Lib.CompactJson
