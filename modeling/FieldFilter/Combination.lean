import FieldFilter.Datum

namespace FieldFilter

/-- The opposite of every bit of a whole number in two's complement. -/
def bitNot (n : Int) : Int :=
  -n - 1

/-- The common bits of two whole numbers in two's complement. -/
def bitAnd : Int → Int → Int
  | .ofNat a, .ofNat b => .ofNat (a &&& b)
  | .ofNat a, .negSucc b => .ofNat (a - (a &&& b))
  | .negSucc a, .ofNat b => .ofNat (b - (a &&& b))
  | .negSucc a, .negSucc b => .negSucc (a ||| b)

/-- The bits of either of two whole numbers in two's complement. -/
def bitOr (m n : Int) : Int :=
  bitNot (bitAnd (bitNot m) (bitNot n))

namespace Scalar

/-- Combines truth values to a truth value, and other whole numbers bit by bit. -/
def combine? (onBits : Int → Int → Int) (onTruth : Bool → Bool → Bool) : Scalar → Scalar → Option Scalar
  | .bool a, .bool b => some (.bool (onTruth a b))
  | s, t =>
    match s.whole?, t.whole? with
    | some m, some n => some (.int (onBits m n))
    | _, _ => none

end Scalar

namespace Datum

/-- The members of both sets, taken from the smaller one, or from the second of two equally large
ones. -/
def commonMembers (xs ys : List Datum) : List Datum :=
  arranged (if xs.length < ys.length then xs.filter fun x => ys.any (same x)
    else ys.filter fun y => xs.any (same y))

/-- The members of either set; of equal members that of the first stays. -/
def allMembers (xs ys : List Datum) : List Datum :=
  arranged (ys.foldl putMember xs)

/-- What data of some types mean by "and": common bits, or common members in a set of the first type. -/
def conjunction? : Datum → Datum → Option Datum
  | .scalar s, .scalar t => (Scalar.combine? bitAnd and s t).map .scalar
  | .set xs, .set ys | .set xs, .frozenSet ys => some (.set (commonMembers xs ys))
  | .frozenSet xs, .set ys | .frozenSet xs, .frozenSet ys => some (.frozenSet (commonMembers xs ys))
  | _, _ => none

/-- What data of some types mean by "or": all bits, all members, or the entries of both dictionaries, of
which the second has the last word. -/
def disjunction? : Datum → Datum → Option Datum
  | .scalar s, .scalar t => (Scalar.combine? bitOr or s t).map .scalar
  | .set xs, .set ys | .set xs, .frozenSet ys => some (.set (allMembers xs ys))
  | .frozenSet xs, .set ys | .frozenSet xs, .frozenSet ys => some (.frozenSet (allMembers xs ys))
  | .dict xs, .dict ys => some (.dict (ys.foldl (fun done entry => putEntry entry.1 entry.2 done) xs))
  | _, _ => none

/-- What a whole number means by "not": the opposite of every bit. -/
def complement? : Datum → Option Datum
  | .scalar s => s.whole?.map fun n => .scalar (.int (bitNot n))
  | _ => none

end Datum

end FieldFilter
