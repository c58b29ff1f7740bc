import FieldFilter.Dialect
import FieldFilter.Negation
import FieldFilter.Text.Buffer

namespace FieldFilter

/-- An action that appends to a buffer and may fail. What was appended before a failure stays. -/
abbrev Writer := EStateM FilterError TextBuffer Unit

namespace Writer

def append (s : String) : Writer :=
  modify fun buffer => buffer.append s

/-- Appends a text, or fails if there is none. -/
def appendOr (text : Except FilterError String) : Writer :=
  match text with
  | .ok s => append s
  | .error e => throw e

/-- Carries out the pieces of an expression in order. -/
def assemble (symbol left right : Writer) : List Piece → Writer
  | [] => pure ()
  | .text s :: rest => do
    append s
    assemble symbol left right rest
  | .symbol :: rest => do
    symbol
    assemble symbol left right rest
  | .left :: rest => do
    left
    assemble symbol left right rest
  | .right :: rest => do
    right
    assemble symbol left right rest

end Writer

namespace Operand

/-- An expression that compares has a value on its right. -/
def lacksValue (tag : Tag) (right : Operand) : Bool :=
  !tag.operator?.any Operator.isLogical && !right.isValue

/-- Membership in a list without items. -/
def isEmptyMembership (tag : Tag) : Operand → Bool
  | .value (.list l) => tag.operator?.any Operator.isMembership && l.items.isEmpty
  | _ => false

/-- Writes a filter in a dialect. A negation is carried out first and its result is written, so no
dialect has to spell one. -/
def write (d : Dialect) (settings : Settings) (t : Operand) : Writer :=
  match t with
  | .group content => do
    Writer.append d.groupOpen
    content.write d settings
    Writer.append d.groupClose
  | .key name => Writer.appendOr (d.fieldText settings name)
  | .value v => Writer.append (d.valueText v)
  | .unfit u => Writer.appendOr (d.unfitText settings u)
  | .expression tag left right =>
    if lacksValue tag right then throw (.malformed tag right.typeName)
    else if tag.operator? = some .not then
      match _ : left.negate with
      | .ok r => r.write d settings
      | .error e => throw e
    else if isEmptyMembership tag right then Writer.append (d.emptyMembershipText tag)
    else
      Writer.assemble (Writer.appendOr (d.symbolText tag)) (left.write d settings)
        (right.write d settings) (d.arrange tag left right)
  | .foreign x => throw (.unexpectedOperand x.typeName)
termination_by t.size
decreasing_by
  · simp only [size]; omega
  · rename_i negated
    have := size_le_of_negate negated
    simp only [size]; omega
  · simp only [size]; omega
  · simp only [size]; omega

end Operand

namespace Dialect

/-- A filter as a text of the dialect. -/
def render (d : Dialect) (settings : Settings) (t : Operand) : Except FilterError String :=
  match t.write d settings .empty with
  | .ok _ buffer => .ok buffer.text
  | .error e _ => .error e

end Dialect

end FieldFilter
