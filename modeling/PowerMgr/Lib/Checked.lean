import Mathlib.Algebra.Ring.Int.Defs

/-!
# Signed 64-bit arithmetic without overflow

The operations fail where the exact result does not fit, as signed overflow is undefined in the
modelled language.  A successful operation is described by the exact result, so that everything
after it is integer arithmetic.

* `Checked.add`, `Checked.sub`, `Checked.div` — the operations, with one spec lemma each;
* `Checked.clamp` — bringing a value into an interval;
* `Checked.narrow` — the implicit conversion to 32 bits without sign, which never fails.
-/

namespace PowerMgr.Lib.Checked

/-- The value of an operation with the given exact result. -/
def ofExact (value : Int) : Option Int64 :=
  if -2 ^ 63 ≤ value ∧ value < 2 ^ 63 then some (Int64.ofInt value) else none

def add (a b : Int64) : Option Int64 :=
  ofExact (a.toInt + b.toInt)

def sub (a b : Int64) : Option Int64 :=
  ofExact (a.toInt - b.toInt)

/-- Division towards zero. -/
def div (a b : Int64) : Option Int64 :=
  if b = 0 then none else ofExact (a.toInt.tdiv b.toInt)

def clamp (value low high : Int64) : Int64 :=
  if value < low then low else if high < value then high else value

def narrow (value : Int64) : UInt32 :=
  value.toUInt64.toUInt32

/-! ## What the operations give -/

section Lemmas

variable {a b c : Int64}

theorem ofExact_eq_some {value : Int} : ofExact value = some c ↔ c.toInt = value := by
  unfold ofExact
  constructor
  · intro h
    split_ifs at h with hfits
    simp only [Option.some.injEq] at h
    rw [← h]
    exact Int64.toInt_ofInt_of_le hfits.1 hfits.2
  · intro h
    subst h
    rw [if_pos ⟨c.le_toInt, c.toInt_lt⟩, Int64.ofInt_toInt]

/-- An operation whose exact result is known to be a 64-bit value. -/
theorem ofExact_of_mem {value : Int} (hlow : -2 ^ 63 ≤ value) (hhigh : value < 2 ^ 63) :
    ∃ c : Int64, ofExact value = some c ∧ c.toInt = value := by
  refine ⟨Int64.ofInt value, ?_, Int64.toInt_ofInt_of_le hlow hhigh⟩
  rw [ofExact, if_pos ⟨hlow, hhigh⟩]

theorem add_eq_some : add a b = some c ↔ c.toInt = a.toInt + b.toInt :=
  ofExact_eq_some

/-- Only the division by -1 can overflow. -/
theorem div_of_ne (hzero : b ≠ 0) (hneg : b ≠ -1) : div a b = some (a / b) := by
  rw [div, if_neg hzero, ofExact_eq_some]
  exact Int64.toInt_div_of_ne_right a b hneg

theorem toInt_clamp (value : Int64) (h : a ≤ b) :
    (clamp value a b).toInt = max a.toInt (min value.toInt b.toInt) := by
  rw [Int64.le_iff_toInt_le] at h
  unfold clamp
  split_ifs with hlow hhigh
  · rw [Int64.lt_iff_toInt_lt] at hlow
    omega
  · rw [Int64.lt_iff_toInt_lt] at hhigh
    omega
  · rw [Int64.lt_iff_toInt_lt] at hlow hhigh
    omega

/-- Narrowing keeps the residue of the value. -/
theorem narrow_toNat (value : Int64) : ((narrow value).toNat : Int) = value.toInt % 2 ^ 32 := by
  have hbits : value.toInt = if 2 * value.toUInt64.toNat < 2 ^ 64 then (value.toUInt64.toNat : Int)
      else value.toUInt64.toNat - 2 ^ 64 :=
    BitVec.toInt_eq_toNat_cond value.toBitVec
  rw [narrow, UInt64.toNat_toUInt32, hbits]
  split <;> omega

end Lemmas

end PowerMgr.Lib.Checked
