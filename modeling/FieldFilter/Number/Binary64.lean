namespace FieldFilter

/-- A double-precision number as its 64-bit word, with a serial number. Two results that are not a number
are told apart by it even if their words agree; for numbers it is of no account. -/
structure Binary64 where
  bits : UInt64
  serial : Nat
deriving DecidableEq

namespace Binary64

/-- The sign bit is set; negative zero has it too. -/
def isNegative (x : Binary64) : Bool :=
  0x8000000000000000 ≤ x.bits.toNat

/-- The eleven exponent bits. -/
def exponentField (x : Binary64) : Nat :=
  x.bits.toNat / 0x10000000000000 % 0x800

/-- The fifty-two fraction bits. -/
def fraction (x : Binary64) : Nat :=
  x.bits.toNat % 0x10000000000000

def isNan (x : Binary64) : Bool :=
  x.exponentField == 2047 && x.fraction != 0

def isInfinite (x : Binary64) : Bool :=
  x.exponentField == 2047 && x.fraction == 0

def isZero (x : Binary64) : Bool :=
  x.exponentField == 0 && x.fraction == 0

/-- The magnitude of a finite number is `significand * 2 ^ (power - 1074)`. -/
def significand (x : Binary64) : Nat :=
  if x.exponentField = 0 then x.fraction else 0x10000000000000 + x.fraction

/-- The exponent above the least one. -/
def power (x : Binary64) : Nat :=
  x.exponentField - 1

/-- A finite number times `2 ^ 1074`, which is always a whole number. -/
def scaled (x : Binary64) : Int :=
  if x.isNegative then -(x.significand * Nat.pow 2 x.power : Nat) else (x.significand * Nat.pow 2 x.power : Nat)

/-- Equality of numbers: both zeros are one number, and a word that is not a number is equal to
itself alone. -/
def sameNumber (x y : Binary64) : Bool :=
  (x.bits == y.bits && (!x.isNan || x.serial == y.serial)) || (x.isZero && y.isZero)

theorem isNan_congr {x y : Binary64} (same : x.bits = y.bits) : x.isNan = y.isNan := by
  simp [isNan, exponentField, fraction, same]

theorem sameNumber_refl (x : Binary64) : x.sameNumber x = true := by
  simp [sameNumber]

theorem sameNumber_comm (x y : Binary64) : x.sameNumber y = y.sameNumber x := by
  by_cases same : x.bits = y.bits
  · simp [sameNumber, same, isNan_congr same, Bool.and_comm, BEq.comm]
  · simp [sameNumber, beq_false_of_ne same, beq_false_of_ne (Ne.symm same), Bool.and_comm]

end Binary64

/-- Where a whole number or a double lies on the extended line: below every finite number, at a
multiple of `2 ^ -1074`, or above every finite number. -/
structure LinePoint where
  rank : Int
  scaled : Int
deriving DecidableEq

namespace LinePoint

def ofInt (n : Int) : LinePoint :=
  ⟨0, n * Nat.pow 2 1074⟩

def ofBinary64 (x : Binary64) : LinePoint :=
  if x.isInfinite then ⟨if x.isNegative then -1 else 1, 0⟩ else ⟨0, x.scaled⟩

/-- The order of the line. -/
def le (p q : LinePoint) : Bool :=
  p.rank < q.rank || (p.rank == q.rank && p.scaled ≤ q.scaled)

theorem le_iff {p q : LinePoint} :
    p.le q = true ↔ p.rank < q.rank ∨ p.rank = q.rank ∧ p.scaled ≤ q.scaled := by
  simp [le]

theorem le_total (p q : LinePoint) : (p.le q || q.le p) = true := by
  rw [Bool.or_eq_true, le_iff, le_iff]
  omega

theorem le_trans {p q r : LinePoint} (first : p.le q = true) (second : q.le r = true) :
    p.le r = true := by
  rw [le_iff] at *
  omega

theorem le_antisymm {p q : LinePoint} (first : p.le q = true) (second : q.le p = true) : p = q := by
  rw [le_iff] at *
  cases p
  cases q
  simp only [LinePoint.mk.injEq] at *
  omega

end LinePoint

end FieldFilter
