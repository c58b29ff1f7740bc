import FieldFilter.Rendering
import FieldFilter.Proofs.Chain

namespace FieldFilter

/-- A filter without filters in it, as it is written: a fixed truth value, or a field compared with what
stands for a value. -/
inductive Atom (β : Type)
  | constant (truth : Bool)
  | comparison (op : Operator) (field : String) (compared : β)
deriving DecidableEq

namespace Atom

def map {α β : Type} (f : α → β) : Atom α → Atom β
  | .constant truth => .constant truth
  | .comparison op field compared => .comparison op field (f compared)

/-- A comparison. Membership in an empty list is settled. -/
def ofComparison (op : Operator) (field : String) (v : Value) : Atom Value :=
  if Operand.isEmptyMembership (.known op) (.value v) then .constant (op == .notIn)
  else .comparison op field v

end Atom

namespace Operand

/-- Emptiness of a membership depends on the operator and not on how it is tagged. -/
theorem isEmptyMembership_congr {tag other : Tag} (same : tag.operator? = other.operator?) (right : Operand) :
    isEmptyMembership tag right = isEmptyMembership other right := by
  unfold isEmptyMembership
  rw [same]

/-- An empty membership is one of the two membership operators with an empty list. -/
theorem isEmptyMembership_iff {op : Operator} {v : Value} :
    isEmptyMembership (.known op) (.value v) = true ↔
      (op = .isIn ∨ op = .notIn) ∧ ∃ l, v = .list l ∧ l.items = [] := by
  cases v with
  | scalar s => simp [isEmptyMembership]
  | list l => cases op <;> simp [isEmptyMembership, Operator.isMembership]

/-- The parts of a plain filter from left to right. How the connectives were nested is lost but for the
groups. -/
def chain : Operand → Chain (Atom Value)
  | .group content => .last (.group content.chain)
  | .expression tag left right =>
    match tag.operator? with
    | some .and => left.chain.append .and right.chain
    | some .or => left.chain.append .or right.chain
    | some op =>
      match left, right with
      | .key field, .value v => .last (.atom (.ofComparison op field v))
      | _, _ => .last (.atom (.constant false))
    | none => .last (.atom (.constant false))
  | _ => .last (.atom (.constant false))

theorem chain_connective {tag : Tag} {c : Connective} (known : tag.operator? = some c.operator)
    (left right : Operand) :
    (Operand.expression tag left right).chain = left.chain.append c right.chain := by
  cases c <;> simp only [Connective.operator] at known <;> rw [chain, known]

theorem chain_comparison {tag : Tag} {op : Operator} (known : tag.operator? = some op)
    (compares : op.isLogical = false) (field : String) (v : Value) :
    (Operand.expression tag (.key field) (.value v)).chain = .last (.atom (.ofComparison op field v)) := by
  rw [chain, known]
  cases op <;> simp_all [Operator.isLogical]

end Operand

end FieldFilter
