import FieldFilter.Text.Literal

namespace FieldFilter

/-- The operators of the filter language. -/
inductive Operator
  | and
  | or
  | eq
  | ne
  | gt
  | gte
  | lt
  | lte
  | isIn
  | notIn
  | not
deriving DecidableEq

namespace Operator

/-- All operators in their listed order. -/
def all : List Operator :=
  [.and, .or, .eq, .ne, .gt, .gte, .lt, .lte, .isIn, .notIn, .not]

def name : Operator → String
  | .and => "AND"
  | .or => "OR"
  | .eq => "EQ"
  | .ne => "NE"
  | .gt => "GT"
  | .gte => "GTE"
  | .lt => "LT"
  | .lte => "LTE"
  | .isIn => "IN"
  | .notIn => "NIN"
  | .not => "NOT"

/-- The operator of a name. Names are in capitals. -/
def ofName? (name : String) : Option Operator :=
  all.find? (·.name == name)

/-- The operator whose truth is the opposite; the negation itself has none. -/
def opposite? : Operator → Option Operator
  | .and => some .or
  | .or => some .and
  | .eq => some .ne
  | .ne => some .eq
  | .gt => some .lte
  | .gte => some .lt
  | .lt => some .gte
  | .lte => some .gt
  | .isIn => some .notIn
  | .notIn => some .isIn
  | .not => none

/-- The operators that combine filters and do not compare a field. -/
def isLogical : Operator → Bool
  | .and | .or | .not => true
  | _ => false

/-- The operators that look for a field in a list. -/
def isMembership : Operator → Bool
  | .isIn | .notIn => true
  | _ => false

theorem ofName?_name (op : Operator) : ofName? op.name = some op := by
  cases op <;> decide

end Operator

/-- The operator of an expression: one of the language, or, in an expression that was put together
unchecked, any text. -/
inductive Tag
  | known (op : Operator)
  | plain (name : String)
deriving DecidableEq

namespace Tag

def name : Tag → String
  | .known op => op.name
  | .plain name => name

/-- The operator that a tag stands for. A plain text stands for the operator it names. -/
def operator? : Tag → Option Operator
  | .known op => some op
  | .plain name => Operator.ofName? name

/-- A tag as a literal in messages. -/
def literal : Tag → String
  | .known op => "<Operator." ++ op.name ++ ": " ++ textLiteral op.name ++ ">"
  | .plain name => textLiteral name

@[simp] theorem operator?_known (op : Operator) : (Tag.known op).operator? = some op := rfl

/-- Two tags with one name stand for the same operator. -/
theorem operator?_congr {tag other : Tag} (named : tag.name = other.name) :
    tag.operator? = other.operator? := by
  have byName (t : Tag) : t.operator? = Operator.ofName? t.name := by
    cases t with
    | known op => exact (Operator.ofName?_name op).symm
    | plain name => rfl
  rw [byName, byName, named]

end Tag

end FieldFilter
