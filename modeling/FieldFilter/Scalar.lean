import FieldFilter.Number.Shortest
import FieldFilter.Text.Literal

namespace FieldFilter

/-- A single value that a field can be compared with. A text consists of Unicode characters, and a surrogate is
none. -/
inductive Scalar
  | text (s : String)
  | bool (b : Bool)
  | int (n : Int)
  | float (x : Binary64)
deriving DecidableEq

/-- The kinds of scalars that a list keeps apart. Whole numbers and doubles are of one kind. -/
inductive ScalarKind
  | boolean
  | number
  | string
deriving DecidableEq

/-- All kinds, in the order of their names. -/
def ScalarKind.all : List ScalarKind :=
  [.boolean, .number, .string]

def ScalarKind.name : ScalarKind → String
  | .boolean => "boolean"
  | .number => "number"
  | .string => "string"

namespace Scalar

def kind : Scalar → ScalarKind
  | .text _ => .string
  | .bool _ => .boolean
  | .int _ => .number
  | .float _ => .number

/-- Equality that keeps whole numbers, doubles and booleans apart, since they are written
differently. Both zeros of the doubles are equal. -/
def same : Scalar → Scalar → Bool
  | .text s, .text t => s == t
  | .bool a, .bool b => a == b
  | .int m, .int n => m == n
  | .float x, .float y => x.sameNumber y
  | _, _ => false

theorem same_refl (s : Scalar) : s.same s = true := by
  cases s <;> simp [same, Binary64.sameNumber_refl]

/-- The place of a number on the extended line; a truth value counts as zero or one. -/
def point? : Scalar → Option LinePoint
  | .text _ => none
  | .bool b => some (.ofInt (if b then 1 else 0))
  | .int n => some (.ofInt n)
  | .float x => if x.isNan then none else some (.ofBinary64 x)

/-- The whole number that a scalar counts as; truth values count as zero and one. -/
def whole? : Scalar → Option Int
  | .int n => some n
  | .bool b => some (if b then 1 else 0)
  | _ => none

/-- The order in which a set is stored: texts by code point, numbers by exact value. -/
def le : Scalar → Scalar → Bool
  | .text s, .text t => s ≤ t
  | s, t =>
    match s.point?, t.point? with
    | some p, some q => p.le q
    | _, _ => true

/-- The bare text of a scalar: a text stands for itself, truth values are in small letters. -/
def bareText : Scalar → String
  | .text s => s
  | .bool b => if b then "true" else "false"
  | .int n => n.repr
  | .float x => x.text

/-- A scalar as a literal in messages. -/
def literal : Scalar → String
  | .text s => textLiteral s
  | .bool b => if b then "True" else "False"
  | .int n => n.repr
  | .float x => x.text

end Scalar

end FieldFilter
