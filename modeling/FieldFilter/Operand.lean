import FieldFilter.Operator
import FieldFilter.Unfit

namespace FieldFilter

/-- The nodes of a filter, and the data that may stand in their place. Checked construction yields
only well-typed nodes. In a tree that was put together unchecked the name of an operator is any text,
any operand is a side or a content, and fields and values hold any data. -/
inductive Operand
  | key (name : String)
  | value (v : Value)
  | unfit (u : Unfit)
  | expression (tag : Tag) (left right : Operand)
  | group (content : Operand)
  | foreign (d : Datum)

namespace Operand

/-- The missing operand, such as the right side of a negation. -/
@[match_pattern] abbrev absent : Operand := .foreign .null

instance : Inhabited Operand := ⟨.absent⟩

/-- The number of nodes. -/
def size : Operand → Nat
  | .key _ => 1
  | .value _ => 1
  | .unfit _ => 1
  | .expression _ left right => 1 + left.size + right.size
  | .group content => 1 + content.size
  | .foreign _ => 0

/-- The name of an operand's type. -/
def typeName : Operand → String
  | .key _ => ObjectType.key.name
  | .value _ => ObjectType.value.name
  | .unfit u => u.type.name
  | .expression .. => ObjectType.expression.name
  | .group _ => ObjectType.group.name
  | .foreign d => d.typeName

/-- The name of an operand's type in messages on operators. -/
def operatorName : Operand → String
  | .foreign d => d.operatorName
  | t => t.typeName

/-- Whether there is no operand at all. -/
def isAbsent : Operand → Bool
  | .absent => true
  | _ => false

def isNode : Operand → Bool
  | .foreign _ => false
  | _ => true

def isValue : Operand → Bool
  | .value _ => true
  | .unfit u => u.isValue
  | _ => false

/-- Structural equality. Tags are compared by name, so that an unchecked expression equals a checked
one with the same operator. -/
def same : Operand → Operand → Bool
  | .key a, .key b => a == b
  | .value v, .value w => v.same w
  | .unfit u, .unfit v => u.same v
  | .expression tag left right, .expression tag' left' right' =>
    tag.name == tag'.name && left.same left' && right.same right'
  | .group content, .group content' => content.same content'
  | .foreign d, .foreign e => d.same e
  | _, _ => false

/-- A double that is not a number and stands alone. -/
def isBareNan : Operand → Bool
  | .foreign (.scalar (.float x)) => x.isNan
  | _ => false

/-- Equality as a caller sees it: a double that is not a number is unequal to itself when it stands
alone, though a node that holds it equals itself. -/
def equals (a b : Operand) : Bool :=
  !a.isBareNan && a.same b

/-- The type of the first part that keeps an operand out of sets, if there is one. -/
def unhashable? : Operand → Option String
  | .key _ => none
  | .value _ => none
  | .unfit u => u.datum.unhashable?
  | .expression _ left right =>
    match left.unhashable? with
    | some type => some type
    | none => right.unhashable?
  | .group content => content.unhashable?
  | .foreign d => d.unhashable?

/-- An operand as a literal in messages. -/
def literal : Operand → String
  | .key name => "Key(key=" ++ textLiteral name ++ ")"
  | .value v => "Value(value=" ++ v.literal ++ ")"
  | .unfit u => u.literal
  | .expression tag left right =>
    "Expression(operator=" ++ tag.literal ++ ", left=" ++ left.literal ++ ", right=" ++ right.literal ++ ")"
  | .group content => "Group(content=" ++ content.literal ++ ")"
  | .foreign d => d.literal

end Operand

end FieldFilter
