import FieldFilter.Construction

namespace FieldFilter

namespace Builder

/-- A field compared with a datum. The field is checked first; a missing datum is a missing right
side, while zero, false and the empty text are values. -/
def compare (op : Operator) (field given : Datum) : Except ValidationError Operand := do
  let key ← Operand.checkedKey field
  let value ← match given with
    | .null => pure .absent
    | d => Operand.checkedValue d
  Operand.checkedExpression op key value

def eq (field given : Datum) : Except ValidationError Operand :=
  compare .eq field given

def ne (field given : Datum) : Except ValidationError Operand :=
  compare .ne field given

def gt (field given : Datum) : Except ValidationError Operand :=
  compare .gt field given

def gte (field given : Datum) : Except ValidationError Operand :=
  compare .gte field given

def lt (field given : Datum) : Except ValidationError Operand :=
  compare .lt field given

def lte (field given : Datum) : Except ValidationError Operand :=
  compare .lte field given

/-- The field is one of the items. -/
def includes (field items : Datum) : Except ValidationError Operand :=
  compare .isIn field items

/-- The field is none of the items. -/
def excludes (field items : Datum) : Except ValidationError Operand :=
  compare .notIn field items

def both (left right : Operand) : Except ValidationError Operand :=
  Operand.checkedExpression .and left right

def either (left right : Operand) : Except ValidationError Operand :=
  Operand.checkedExpression .or left right

def group (content : Operand) : Except ValidationError Operand :=
  Operand.checkedGroup content

/-- The negation as a node; it is carried out when the filter is written. -/
def not (content : Operand) : Except ValidationError Operand :=
  Operand.checkedExpression .not content .absent

end Builder

end FieldFilter
