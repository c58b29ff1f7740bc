import FieldFilter.Negation

namespace FieldFilter

/-- The two operators that stand between filters. -/
inductive Connective
  | and
  | or
deriving DecidableEq

namespace Connective

def operator : Connective → Operator
  | .and => .and
  | .or => .or

/-- The connective that a negation puts in its place. -/
def opposite : Connective → Connective
  | .and => .or
  | .or => .and

@[simp] theorem opposite_opposite (c : Connective) : c.opposite.opposite = c := by
  cases c <;> rfl

theorem isLogical_operator (c : Connective) : c.operator.isLogical = true := by
  cases c <;> rfl

theorem operator_ne_not (c : Connective) : c.operator ≠ .not := by
  cases c <;> decide

/-- The two connectives are each other's opposites. -/
theorem swapped (c : Connective) :
    c.operator = .and ∧ c.opposite.operator = .or ∨ c.operator = .or ∧ c.opposite.operator = .and := by
  cases c
  · exact Or.inl ⟨rfl, rfl⟩
  · exact Or.inr ⟨rfl, rfl⟩

end Connective

theorem Operator.opposite?_comparison {op : Operator} (compares : op.isLogical = false) :
    ∃ other, op.opposite? = some other ∧ other.isLogical = false := by
  cases op <;> simp_all [Operator.isLogical, Operator.opposite?]

theorem Operator.ne_not {op : Operator} (compares : op.isLogical = false) : op ≠ .not := by
  rintro rfl
  cases compares

namespace Operand

/-- A filter as it is meant to be put together: a comparison has a field on its left and a value on its
right, and a connective has filters on both sides. The right side of a negation is never looked at. -/
inductive WellFormed : Operand → Prop
  | comparison {tag : Tag} {op : Operator} (field : String) (v : Value) :
      tag.operator? = some op → op.isLogical = false → WellFormed (.expression tag (.key field) (.value v))
  | connective {tag : Tag} {left right : Operand} (c : Connective) :
      tag.operator? = some c.operator → WellFormed left → WellFormed right →
      WellFormed (.expression tag left right)
  | negation {tag : Tag} {left : Operand} (right : Operand) :
      tag.operator? = some .not → WellFormed left → WellFormed (.expression tag left right)
  | group {content : Operand} : WellFormed content → WellFormed (.group content)

/-- A well-formed filter without a negation in it. -/
inductive Plain : Operand → Prop
  | comparison {tag : Tag} {op : Operator} (field : String) (v : Value) :
      tag.operator? = some op → op.isLogical = false → Plain (.expression tag (.key field) (.value v))
  | connective {tag : Tag} {left right : Operand} (c : Connective) :
      tag.operator? = some c.operator → Plain left → Plain right → Plain (.expression tag left right)
  | group {content : Operand} : Plain content → Plain (.group content)

theorem Plain.wellFormed {t : Operand} (plain : t.Plain) : t.WellFormed := by
  induction plain with
  | comparison field v known compares => exact .comparison field v known compares
  | connective c known _ _ left right => exact .connective c known left right
  | group _ content => exact .group content

theorem Plain.ungrouped {t : Operand} (plain : t.Plain) : t.ungrouped.Plain := by
  cases plain with
  | comparison field v known compares => exact .comparison field v known compares
  | connective c known left right => exact .connective c known left right
  | group content => exact content

/-- The negation of a plain filter, written down in one pass. -/
def dual : Operand → Operand
  | .group content => .group content.dual.ungrouped
  | .expression tag left right =>
    match tag.operator? with
    | some .and => .expression (.known .or) left.dual right.dual
    | some .or => .expression (.known .and) left.dual right.dual
    | some op => .expression (.known (op.opposite?.getD op)) left right
    | none => .expression tag left right
  | t => t

theorem dual_connective {tag : Tag} {c : Connective} (known : tag.operator? = some c.operator)
    (left right : Operand) :
    (Operand.expression tag left right).dual =
      .expression (.known c.opposite.operator) left.dual right.dual := by
  cases c <;> simp only [Connective.operator] at known <;> rw [dual, known] <;> rfl

theorem dual_comparison {tag : Tag} {op other : Operator} (known : tag.operator? = some op)
    (compares : op.isLogical = false) (paired : op.opposite? = some other) (left right : Operand) :
    (Operand.expression tag left right).dual = .expression (.known other) left right := by
  rw [dual, known]
  cases op <;> simp_all [Operator.isLogical]

theorem Plain.dual {t : Operand} (plain : t.Plain) : t.dual.Plain := by
  induction plain with
  | comparison field v known compares =>
    obtain ⟨other, paired, compares'⟩ := Operator.opposite?_comparison compares
    rw [dual_comparison known compares paired]
    exact .comparison field v (Tag.operator?_known other) compares'
  | connective c known _ _ left right =>
    rw [dual_connective known]
    exact .connective c.opposite (Tag.operator?_known _) left right
  | group _ content => exact .group content.ungrouped

/-- On plain filters negation never fails, and the recursion on rewritten operands comes to a single
pass. -/
theorem Plain.negate_eq {t : Operand} (plain : t.Plain) : t.negate = .ok t.dual := by
  induction plain with
  | comparison field v known compares =>
    obtain ⟨other, paired, _⟩ := Operator.opposite?_comparison compares
    rw [negate_comparison known compares paired, dual_comparison known compares paired]
    rfl
  | @connective tag left right c known _ _ negatedLeft negatedRight =>
    rw [negate_connective known c.swapped, dual_connective known, negatedLeft, negatedRight]
    rfl
  | group _ negated =>
    rw [negate_group, negated]
    rfl

end Operand

end FieldFilter
