import Mathlib.Data.List.Basic

/-!
# Buffers with a read cursor

A codec writes values as lists of units and reads them back from the front of a list.  A buffer is
written at its end and read at a cursor.  What a buffer reads is described by the units that are
left to read, so that a reader never looks at the rest of the buffer.

* `Codec` — writing and reading, inverse to each other with anything behind the value;
* `FixedCodec` — a codec of a fixed positive width, whose reader fails only at the end of the data;
* `Buffer.read_eq_some` — what a successful read says about the buffer before and after it;
* `int32LE` — 32-bit integers as four bytes, the low one first.
-/

namespace PowerMgr.Lib

universe u v

/-- Writing values and reading them back.  Neither law is about the value alone: a reader takes
exactly the units of one value and leaves what follows. -/
structure Codec (α : Type u) (σ : Type v) where
  write : α → List σ
  read : List σ → Option (α × List σ)
  read_write : ∀ a rest, read (write a ++ rest) = some (a, rest)
  write_read : ∀ input a rest, read input = some (a, rest) → input = write a ++ rest

/-- All values take the same number of units, and reading fails only when fewer are left. -/
structure FixedCodec (α : Type u) (σ : Type v) extends Codec α σ where
  width : Nat
  width_pos : 0 < width
  read_eq_none : ∀ input, read input = none ↔ input.length < width

namespace Codec

variable {α : Type u} {σ : Type v} (c : Codec α σ)

theorem read_eq_some {input rest : List σ} {a : α} :
    c.read input = some (a, rest) ↔ input = c.write a ++ rest := by
  constructor
  · intro hread
    exact c.write_read input a rest hread
  · intro hinput
    rw [hinput]
    exact c.read_write a rest

end Codec

theorem FixedCodec.write_ne_nil {α : Type u} {σ : Type v} (c : FixedCodec α σ) (a : α) : c.write a ≠ [] := by
  intro hnil
  have hshort : (c.write a ++ []).length < c.width := by simpa [hnil] using c.width_pos
  have hnone := (c.read_eq_none _).mpr hshort
  rw [c.read_write] at hnone
  cases hnone

/-! ## Buffers -/

/-- Units written so far and how many of them have been read. -/
structure Buffer (σ : Type v) where
  data : List σ
  readCursor : Nat

namespace Buffer

variable {α : Type u} {σ : Type v}

/-- What is left to read. -/
def unread (b : Buffer σ) : List σ :=
  b.data.drop b.readCursor

def append (b : Buffer σ) (units : List σ) : Buffer σ :=
  { b with data := b.data ++ units }

def advance (b : Buffer σ) (n : Nat) : Buffer σ :=
  { b with readCursor := b.readCursor + n }

/-- Write a value at the end. -/
def write (c : Codec α σ) (a : α) (b : Buffer σ) : Buffer σ :=
  b.append (c.write a)

/-- Read a value at the cursor; a failed read leaves the cursor where it is. -/
def read (c : Codec α σ) (b : Buffer σ) : Option α × Buffer σ :=
  match c.read b.unread with
  | none => (none, b)
  | some (a, rest) => (some a, b.advance (b.unread.length - rest.length))

@[simp] theorem append_nil (b : Buffer σ) : b.append [] = b := by
  simp [append]

@[simp] theorem append_append (b : Buffer σ) (units units' : List σ) :
    (b.append units).append units' = b.append (units ++ units') := by
  simp [append]

@[simp] theorem append_eq_self {b : Buffer σ} {units : List σ} : b.append units = b ↔ units = [] := by
  constructor
  · intro hsame
    have hdata : b.data ++ units = b.data := congrArg data hsame
    simpa using hdata
  · intro hnil
    simp [hnil]

@[simp] theorem advance_zero (b : Buffer σ) : b.advance 0 = b := by
  simp [advance]

@[simp] theorem advance_advance (b : Buffer σ) (n m : Nat) : (b.advance n).advance m = b.advance (n + m) := by
  simp [advance, Nat.add_assoc]

@[simp] theorem unread_advance (b : Buffer σ) (n : Nat) : (b.advance n).unread = b.unread.drop n := by
  simp [advance, unread]

theorem unread_mk (before units : List σ) : (Buffer.mk (before ++ units) before.length).unread = units := by
  simp [unread]

/-- A successful read found the units of the value at the cursor and moved behind them. -/
theorem read_eq_some {c : Codec α σ} {b b' : Buffer σ} {a : α} :
    b.read c = (some a, b') ↔
      ∃ rest, b.unread = c.write a ++ rest ∧ b' = b.advance (c.write a).length := by
  unfold read
  constructor
  · intro hread
    split at hread
    next => simp at hread
    next a' rest hsome =>
      simp only [Prod.mk.injEq, Option.some.injEq] at hread
      obtain ⟨rfl, rfl⟩ := hread
      rw [Codec.read_eq_some] at hsome
      exact ⟨rest, hsome, by simp [hsome]⟩
  · rintro ⟨rest, hunread, rfl⟩
    simp [hunread, c.read_write]

/-- Reading at the front of what is left. -/
theorem read_write {c : Codec α σ} {b : Buffer σ} {a : α} {rest : List σ} (hunread : b.unread = c.write a ++ rest) :
    b.read c = (some a, b.advance (c.write a).length) :=
  read_eq_some.mpr ⟨rest, hunread, rfl⟩

end Buffer

/-! ## 32-bit integers -/

section Int32

def int32Write (a : Int32) : List UInt8 :=
  let n := a.toUInt32.toNat
  [.ofNat n, .ofNat (n / 256), .ofNat (n / 65536), .ofNat (n / 16777216)]

def int32Read : List UInt8 → Option (Int32 × List UInt8)
  | b₀ :: b₁ :: b₂ :: b₃ :: rest =>
    let n := b₀.toNat + 256 * b₁.toNat + 65536 * b₂.toNat + 16777216 * b₃.toNat
    some (.ofUInt32 (.ofNat n), rest)
  | _ => none

theorem int32Read_write (a : Int32) (rest : List UInt8) : int32Read (int32Write a ++ rest) = some (a, rest) := by
  obtain ⟨u⟩ := a
  have hsum : u.toNat % 256 + 256 * (u.toNat / 256 % 256) + 65536 * (u.toNat / 65536 % 256) +
      16777216 * (u.toNat / 16777216 % 256) = u.toNat := by
    have hbound := u.toNat_lt
    omega
  simp [int32Write, int32Read, hsum]

theorem int32Write_read (input : List UInt8) (a : Int32) (rest : List UInt8)
    (hread : int32Read input = some (a, rest)) : input = int32Write a ++ rest := by
  match input with
  | b₀ :: b₁ :: b₂ :: b₃ :: rest' =>
    simp only [int32Read, Option.some.injEq, Prod.mk.injEq] at hread
    obtain ⟨rfl, rfl⟩ := hread
    have h₀ := b₀.toNat_lt
    have h₁ := b₁.toNat_lt
    have h₂ := b₂.toNat_lt
    have h₃ := b₃.toNat_lt
    simp only [int32Write, UInt32.toNat_ofNat', List.cons_append, List.nil_append, List.cons.injEq, and_true]
    simp only [← UInt8.toNat_inj, UInt8.toNat_ofNat']
    omega
  | [] | [_] | [_, _] | [_, _, _] => simp [int32Read] at hread

theorem int32Read_eq_none (input : List UInt8) : int32Read input = none ↔ input.length < 4 := by
  match input with
  | b₀ :: b₁ :: b₂ :: b₃ :: rest' => simp [int32Read]
  | [] | [_] | [_, _] | [_, _, _] => simp [int32Read]

/-- Four bytes, the low one first. -/
def int32LE : FixedCodec Int32 UInt8 where
  write := int32Write
  read := int32Read
  read_write := int32Read_write
  write_read := int32Write_read
  width := 4
  width_pos := by decide
  read_eq_none := int32Read_eq_none

end Int32

end PowerMgr.Lib
