import FieldFilter.Construction

namespace FieldFilter

namespace Operand

/-- The content of a group, and any other operand as it is. -/
def ungrouped : Operand → Operand
  | .group content => content
  | t => t

theorem size_ungrouped_le (t : Operand) : t.ungrouped.size ≤ t.size := by
  cases t <;> simp [ungrouped, size]

/-- The negation of an operand with a bound on its size. A doubled negation is carried out twice, so
the recursion is on a rewritten operand, and the bound is what makes it end. -/
def negateBounded (t : Operand) : Except FilterError { r : Operand // r.size ≤ t.size } :=
  match t with
  | .group content => do
    let ⟨inner, bound⟩ ← negateBounded content
    .ok ⟨.group inner.ungrouped, by have := size_ungrouped_le inner; simp only [size]; omega⟩
  | .expression tag left right =>
    match tag.operator? with
    | none => .error (.noOpposite tag)
    | some .not => do
      let ⟨once, bound⟩ ← negateBounded left
      let ⟨twice, bound'⟩ ← negateBounded once
      .ok ⟨twice, by simp only [size]; omega⟩
    | some .and => do
      let ⟨left', boundLeft⟩ ← negateBounded left
      let ⟨right', boundRight⟩ ← negateBounded right
      .ok ⟨.expression (.known .or) left' right', by simp only [size]; omega⟩
    | some .or => do
      let ⟨left', boundLeft⟩ ← negateBounded left
      let ⟨right', boundRight⟩ ← negateBounded right
      .ok ⟨.expression (.known .and) left' right', by simp only [size]; omega⟩
    | some op =>
      match op.opposite? with
      | none => .error (.noOpposite tag)
      | some other =>
        match rebuilt : checkedExpression other left right with
        | .ok r => .ok ⟨r, by rw [(checkedExpression_eq_ok_iff.1 rebuilt).2]; simp only [size]; omega⟩
        | .error e => .error (.invalid e)
  | t => .error (.notNegatable t.typeName)
termination_by t.size
decreasing_by all_goals simp only [size]; omega

/-- The logical negation of a filter, without a negation left in it: connectives are swapped,
comparisons get the opposite operator, and the negation of a negation is carried out. A group stays
a group. -/
def negate (t : Operand) : Except FilterError Operand :=
  (negateBounded t).map Subtype.val

/-- Negating never makes a filter larger. -/
theorem size_le_of_negate {t r : Operand} (negated : t.negate = .ok r) : r.size ≤ t.size := by
  unfold negate at negated
  cases bounded : negateBounded t with
  | error e => simp [bounded, Except.map] at negated
  | ok result =>
    simp only [bounded, Except.map, Except.ok.injEq] at negated
    exact negated ▸ result.property

theorem negate_group (content : Operand) :
    (Operand.group content).negate = (content.negate).map fun inner => .group inner.ungrouped := by
  rw [negate, negateBounded, negate]
  cases negateBounded content <;> rfl

theorem negate_not {tag : Tag} {left right : Operand} (known : tag.operator? = some .not) :
    (Operand.expression tag left right).negate = left.negate.bind negate := by
  rw [negate, negateBounded, negate]
  simp only [known]
  cases negateBounded left with
  | error e => rfl
  | ok once =>
    obtain ⟨once, bound⟩ := once
    simp only [bind, Except.bind, Except.map, negate]
    cases negateBounded once <;> rfl

/-- A conjunction or disjunction becomes the other connective between the negated sides. -/
theorem negate_connective {tag : Tag} {op other : Operator} {left right : Operand}
    (known : tag.operator? = some op) (swapped : op = .and ∧ other = .or ∨ op = .or ∧ other = .and) :
    (Operand.expression tag left right).negate = left.negate.bind fun left' =>
      right.negate.map fun right' => .expression (.known other) left' right' := by
  rw [negate, negateBounded, negate, negate]
  rcases swapped with ⟨rfl, rfl⟩ | ⟨rfl, rfl⟩ <;>
  · simp only [known]
    cases negateBounded left <;> cases negateBounded right <;> rfl

/-- A comparison gets the opposite operator, if both of its sides are nodes. -/
theorem negate_comparison {tag : Tag} {op other : Operator} {left right : Operand}
    (known : tag.operator? = some op) (compares : op.isLogical = false) (paired : op.opposite? = some other) :
    (Operand.expression tag left right).negate =
      (checkedExpression other left right).mapError .invalid := by
  rw [negate, negateBounded]
  cases op <;> simp only [Operator.isLogical, reduceCtorEq] at compares <;>
  · simp only [known, paired]
    split
    · rename_i r rebuilt
      exact congrArg (Except.mapError FilterError.invalid) rebuilt.symm
    · rename_i e rebuilt
      exact congrArg (Except.mapError FilterError.invalid) rebuilt.symm

theorem negate_unknown {tag : Tag} {left right : Operand} (unknown : tag.operator? = none) :
    (Operand.expression tag left right).negate = .error (.noOpposite tag) := by
  rw [negate, negateBounded]
  simp only [unknown, Except.map]

theorem negate_of_not_filter {t : Operand} (bare : t.isFilter = false) :
    t.negate = .error (.notNegatable t.typeName) := by
  cases t with
  | expression => simp [isFilter] at bare
  | group => simp [isFilter] at bare
  | key => simp [negate, negateBounded, Except.map]
  | value => simp [negate, negateBounded, Except.map]
  | unfit => simp [negate, negateBounded, Except.map]
  | foreign => simp [negate, negateBounded, Except.map]

end Operand

end FieldFilter
