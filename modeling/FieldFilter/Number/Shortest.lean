import FieldFilter.Number.Binary64

namespace FieldFilter

/-- A positive decimal: its digits with the decimal point moved `point` places to the right of the
first digit's front. -/
structure Decimal where
  digits : List Char
  point : Int
deriving DecidableEq

/-- A positive fraction, and the fractions halfway to its two neighbours among the doubles. All
three have one denominator. `closed` says that the halfway points read back as the number itself. -/
structure RoundingInterval where
  low : Nat
  value : Nat
  high : Nat
  denominator : Nat
  closed : Bool

/-- The reals that read back as a finite positive double. The gap below a power of two is half as
wide as the gap above it, and a halfway point goes to the even significand. -/
def Binary64.interval (x : Binary64) : RoundingInterval :=
  let m := x.significand
  let gap := if x.fraction = 0 ∧ 1 < x.exponentField then 1 else 2
  let up := Nat.pow 2 (x.power - 1076)
  ⟨(4 * m - gap) * up, 4 * m * up, (4 * m + 2) * up, Nat.pow 2 (1076 - x.power), m % 2 == 0⟩

namespace RoundingInterval

/-- Numerator and denominator of `n * 10 ^ e`. -/
def scaledTen (n : Nat) (e : Int) : Nat × Nat :=
  (n * Nat.pow 10 e.toNat, Nat.pow 10 (-e).toNat)

/-- The value is less than `10 ^ e`. -/
def below (i : RoundingInterval) (e : Int) : Bool :=
  i.value * (scaledTen 1 e).2 < (scaledTen 1 e).1 * i.denominator

/-- The least power of ten above the value. The value lies between two neighbouring powers of two,
whose exponent bounds the decimal one up to a single step. -/
def magnitude (i : RoundingInterval) : Int :=
  let binary : Int := (Nat.log2 i.value : Int) - Nat.log2 i.denominator
  let least := (binary - 1) * 30103 / 100000 + 1
  if i.below least then least else least + 1

/-- Whether `n * 10 ^ e` reads back as the value. -/
def contains (i : RoundingInterval) (n : Nat) (e : Int) : Bool :=
  let (numerator, denominator) := scaledTen n e
  let point := numerator * i.denominator
  let low := i.low * denominator
  let high := i.high * denominator
  (low < point && point < high) || (i.closed && (low == point || high == point))

/-- The multiple of `10 ^ e` next below the value. -/
def floor (i : RoundingInterval) (e : Int) : Nat :=
  let (numerator, denominator) := scaledTen 1 e
  i.value * denominator / (numerator * i.denominator)

/-- Whether the value lies past the middle between `n` and `n + 1` on the grid of `10 ^ e`; a value
in the middle counts as past it when `n` is odd, so that it goes to the even neighbour. -/
def pastMiddle (i : RoundingInterval) (n : Nat) (e : Int) : Bool :=
  let (numerator, denominator) := scaledTen (2 * n + 1) e
  let middle := numerator * i.denominator
  let value := 2 * i.value * denominator
  middle < value || (middle == value && n % 2 == 1)

/-- The nearest multiple of `10 ^ e` that reads back as the value, if a neighbour of the value on
that grid does. -/
def nearest? (i : RoundingInterval) (e : Int) : Option Nat :=
  let n := i.floor e
  match i.contains n e, i.contains (n + 1) e with
  | true, true => some (if i.pastMiddle n e then n + 1 else n)
  | true, false => some n
  | false, true => some (n + 1)
  | false, false => none

end RoundingInterval

/-- Drops the zeros at the end. -/
def dropTrailingZeros (digits : List Char) : List Char :=
  (digits.reverse.dropWhile (· == '0')).reverse

/-- `n * 10 ^ e` without zeros at the end. -/
def Decimal.ofScaled (n : Nat) (e : Int) : Decimal :=
  let digits := Nat.toDigits 10 n
  ⟨dropTrailingZeros digits, e + digits.length⟩

/-- The shortest decimal that reads back as a finite positive double, and of those the nearest.
Seventeen digits always read back. -/
def Binary64.shortest (x : Binary64) : Decimal :=
  let i := x.interval
  let magnitude := i.magnitude
  let found := (List.range 17).findSome? fun k =>
    let e := magnitude - (k + 1 : Nat)
    (i.nearest? e).map (Decimal.ofScaled · e)
  found.getD (Decimal.ofScaled (i.floor (magnitude - 17)) (magnitude - 17))

/-- A decimal in positional notation, with at least one digit on both sides of the point. -/
def Decimal.positional (d : Decimal) : List Char :=
  if d.point ≤ 0 then
    '0' :: '.' :: List.replicate (-d.point).toNat '0' ++ d.digits
  else
    let whole := d.point.toNat
    if d.digits.length ≤ whole then
      d.digits ++ List.replicate (whole - d.digits.length) '0' ++ ['.', '0']
    else
      d.digits.take whole ++ '.' :: d.digits.drop whole

/-- An exponent with its sign and at least two digits. -/
def exponentText (e : Int) : List Char :=
  let digits := Nat.toDigits 10 e.natAbs
  (if e < 0 then '-' else '+') :: (if digits.length < 2 then '0' :: digits else digits)

/-- A decimal with one digit before the point and an exponent; a single digit has no point. -/
def Decimal.scientific (d : Decimal) : List Char :=
  match d.digits with
  | [] => []
  | [digit] => digit :: 'e' :: exponentText (d.point - 1)
  | digit :: rest => digit :: '.' :: rest ++ 'e' :: exponentText (d.point - 1)

/-- A decimal is positional when its first digit stands for at least `10 ^ -4` and less than
`10 ^ 16`. -/
def Decimal.text (d : Decimal) : List Char :=
  if -4 ≤ d.point - 1 ∧ d.point - 1 < 16 then d.positional else d.scientific

/-- The text of the magnitude. -/
def Binary64.magnitudeText (x : Binary64) : List Char :=
  if x.isInfinite then ['i', 'n', 'f']
  else if x.isZero then ['0', '.', '0']
  else x.shortest.text

/-- The text of a double: the shortest one that reads back, with the sign of zero kept. -/
def Binary64.text (x : Binary64) : String :=
  if x.isNan then "nan"
  else String.ofList (if x.isNegative then '-' :: x.magnitudeText else x.magnitudeText)

end FieldFilter
