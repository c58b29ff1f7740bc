import FieldFilter.Combination
import FieldFilter.Error
import FieldFilter.Text.Blank

namespace FieldFilter

/-- The text that a field is given: a text as it is, bytes decoded as UTF-8. -/
def fieldText (field : String) : Datum → Except Issue String
  | .scalar (.text s) => .ok s
  | .bytes content | .byteArray content =>
    match String.fromUTF8? ⟨content.toArray⟩ with
    | some s => .ok s
    | none => .error (.notUtf8 field)
  | _ => .error (.notText field)

/-- The operator that a datum names, as a text or as bytes in UTF-8. -/
def operatorOf? (d : Datum) : Option Operator :=
  match fieldText "operator" d with
  | .ok s => Operator.ofName? s
  | .error _ => none

namespace Operand

/-- A field reference; its name is a text that is not blank. -/
def checkedKey (name : Datum) : Except ValidationError Operand :=
  match fieldText "key" name with
  | .error issue => .error ⟨[issue]⟩
  | .ok s => if isBlankText s then .error ⟨[.blankKey]⟩ else .ok (.key s)

/-- A value from a datum. -/
def checkedValue (d : Datum) : Except ValidationError Operand :=
  match Value.ofDatum d with
  | .ok v => .ok (.value v)
  | .error fault => .error ⟨[.unfitValue fault]⟩

/-- A field reference that is put together unchecked. -/
def uncheckedKey (name : Datum) : Operand :=
  match text : name.ownText? with
  | some s => .key s
  | none => .unfit (.key name text)

/-- A value that is put together unchecked. -/
def uncheckedValue (content : Datum) : Operand :=
  match stored : Value.ofStored? content with
  | some v => .value v
  | none => .unfit (.value content stored)

/-- The faults of an operand that has to be a node: one for each kind that it is not. -/
def nodeIssues (field : String) (t : Operand) : List Issue :=
  if t.isNode then []
  else [.notNode field .key, .notNode field .value, .notNode field .expression, .notNode field .group]

/-- The faults of both sides of an expression. The right one may be missing. -/
def sideIssues (left right : Operand) : List Issue :=
  nodeIssues "left" left ++ if right.isAbsent then [] else nodeIssues "right" right

/-- An expression on nodes. -/
def checkedExpression (op : Operator) (left right : Operand) : Except ValidationError Operand :=
  match sideIssues left right with
  | [] => .ok (.expression (.known op) left right)
  | issues => .error ⟨issues⟩

/-- An expression with an operator given by its name. All faults are reported together. -/
def checkedExpressionOf (operator : Datum) (left right : Operand) : Except ValidationError Operand :=
  match operatorOf? operator with
  | some op => checkedExpression op left right
  | none => .error ⟨.unknownOperator :: sideIssues left right⟩

/-- A group; it holds an expression and not another group. -/
def checkedGroup : Operand → Except ValidationError Operand
  | .expression tag left right => .ok (.group (.expression tag left right))
  | _ => .error ⟨[.notExpression]⟩

/-- Nodes never change: assigning to any field of one fails. A name that starts with an underscore is no
field, and what is kept under it does not show, unless it stands for all fields at once: these are
exchanged unchecked. -/
def assign (field : String) : Except ValidationError Unit :=
  if field.toList.head? = some '_' then .ok () else .error ⟨[.frozen field]⟩

/-- Whether an operand has a truth value, so that it can be combined with others. -/
def isFilter : Operand → Bool
  | .expression .. | .group _ => true
  | _ => false

/-- What two operands that are data combine to, if their types can be combined. -/
def combined? (combine : Datum → Datum → Option Datum) : Operand → Operand → Option Datum
  | .foreign d, .foreign e => combine d e
  | _, _ => none

/-- Joins two operands by a connective that is written as a symbol. Two data are combined in their own
way. -/
def connect (symbol : String) (op : Operator) (combine : Datum → Datum → Option Datum)
    (left right : Operand) : Except Failure Operand :=
  if left.isFilter then (checkedExpression op left right).mapError .validation
  else
    match combined? combine left right with
    | some d => .ok (.foreign d)
    | none => .error (.type (.binary symbol left.operatorName right.operatorName))

def conjunction (left right : Operand) : Except Failure Operand :=
  connect "&" .and Datum.conjunction? left right

def disjunction (left right : Operand) : Except Failure Operand :=
  connect "|" .or Datum.disjunction? left right

def complement : Operand → Except Failure Operand
  | .foreign d =>
    match d.complement? with
    | some e => .ok (.foreign e)
    | none => .error (.type (.unary "~" d.operatorName))
  | t =>
    if t.isFilter then (checkedExpression .not t .absent).mapError .validation
    else .error (.type (.unary "~" t.operatorName))

theorem nodeIssues_eq_nil_iff {field : String} {t : Operand} :
    nodeIssues field t = [] ↔ t.isNode = true := by
  unfold nodeIssues
  split <;> simp_all

theorem sideIssues_eq_nil_iff {left right : Operand} :
    sideIssues left right = [] ↔
      left.isNode = true ∧ (right.isAbsent = true ∨ right.isNode = true) := by
  unfold sideIssues
  cases absent : right.isAbsent <;> simp [nodeIssues_eq_nil_iff]

theorem checkedExpression_eq_ok_iff {op : Operator} {left right t : Operand} :
    checkedExpression op left right = .ok t ↔
      (left.isNode = true ∧ (right.isAbsent = true ∨ right.isNode = true)) ∧
        t = .expression (.known op) left right := by
  rw [← sideIssues_eq_nil_iff]
  unfold checkedExpression
  cases sideIssues left right <;> simp [eq_comm]

end Operand

end FieldFilter
