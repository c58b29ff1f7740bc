import FieldFilter.Value

namespace FieldFilter

/-- A field reference or a value that was put together unchecked, with a name that is no text or with
contents that no value has. The proofs keep it apart from nodes that could have been checked. -/
inductive Unfit
  | key (name : Datum) (noText : name.ownText? = none)
  | value (content : Datum) (noValue : Value.ofStored? content = none)

namespace Unfit

def type : Unfit → ObjectType
  | .key .. => .key
  | .value .. => .value

/-- What the node holds. -/
def datum : Unfit → Datum
  | .key name _ => name
  | .value content _ => content

def isValue : Unfit → Bool
  | .key .. => false
  | .value .. => true

/-- Structural equality. Contents of values are told apart by their types, as scalars are. -/
def same : Unfit → Unfit → Bool
  | .key name _, .key name' _ => name.same name'
  | .value content _, .value content' _ => content.sameTyped content'
  | _, _ => false

/-- What the node holds, under the name of the field that it is kept in. -/
def fieldLiteral : Unfit → String
  | .key name _ => "key=" ++ name.literal
  | .value content _ => "value=" ++ content.literal

/-- The node as a literal in messages. -/
def literal (u : Unfit) : String :=
  u.type.name ++ "(" ++ u.fieldLiteral ++ ")"

end Unfit

end FieldFilter
