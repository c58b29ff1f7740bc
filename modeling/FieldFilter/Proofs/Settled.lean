import FieldFilter.Proofs.ErrorClasses

namespace FieldFilter

namespace Operand

def isExpression : Operand → Bool
  | .expression .. => true
  | _ => false

/-- The nodes of the boolean skeleton, each in front of those below it. Groups lead to their contents,
connectives to both of their sides and negations to what they negate. -/
def skeleton : Operand → List Operand
  | .group content => .group content :: content.skeleton
  | .expression tag left right =>
    .expression tag left right ::
      match tag.operator? with
      | some .and | some .or => left.skeleton ++ right.skeleton
      | some .not => left.skeleton
      | _ => []
  | t => [t]

/-- The sides of the comparisons in the boolean skeleton, from left to right. -/
def compared : Operand → List (Operand × Operand)
  | .group content => content.compared
  | .expression tag left right =>
    match tag.operator? with
    | some .and | some .or => left.compared ++ right.compared
    | some .not => left.compared
    | some _ => [(left, right)]
    | none => []
  | _ => []

section Equations

variable {tag : Tag} (left right : Operand)

theorem skeleton_connective {c : Connective} (known : tag.operator? = some c.operator) :
    (Operand.expression tag left right).skeleton =
      .expression tag left right :: (left.skeleton ++ right.skeleton) := by
  cases c <;> simp only [Connective.operator] at known <;> rw [skeleton, known]

theorem skeleton_negation (known : tag.operator? = some .not) :
    (Operand.expression tag left right).skeleton = .expression tag left right :: left.skeleton := by
  rw [skeleton, known]

theorem skeleton_comparison {op : Operator} (known : tag.operator? = some op)
    (compares : op.isLogical = false) :
    (Operand.expression tag left right).skeleton = [.expression tag left right] := by
  rw [skeleton, known]
  cases op <;> simp_all [Operator.isLogical]

theorem compared_connective {c : Connective} (known : tag.operator? = some c.operator) :
    (Operand.expression tag left right).compared = left.compared ++ right.compared := by
  cases c <;> simp only [Connective.operator] at known <;> rw [compared, known]

theorem compared_negation (known : tag.operator? = some .not) :
    (Operand.expression tag left right).compared = left.compared := by
  rw [compared, known]

theorem compared_comparison {op : Operator} (known : tag.operator? = some op)
    (compares : op.isLogical = false) :
    (Operand.expression tag left right).compared = [(left, right)] := by
  rw [compared, known]
  cases op <;> simp_all [Operator.isLogical]

end Equations

theorem compared_ungrouped (t : Operand) : t.ungrouped.compared = t.compared := by
  cases t <;> rfl

/-- A push leaves the sides of comparisons as they are, and in their order. -/
theorem compared_of_push {t r : Operand} {kept : Bool} (run : t.push kept = .ok r) :
    r.compared = t.compared := by
  induction t using inductionByOperator generalizing kept r with
  | key | value | unfit | foreign => cases run
  | group content ih =>
    obtain ⟨inner, pushed, rfl⟩ := push_group_eq_ok_iff.1 run
    rw [compared, compared_ungrouped, compared, ih pushed]
  | unknown tag left right unknown =>
    rw [push_unknown kept left right unknown] at run
    cases run
  | negation tag left right known ih =>
    rw [push_negation kept left right known] at run
    rw [compared_negation left right known, ih run]
  | connective tag c left right known ihLeft ihRight =>
    obtain ⟨left', right', pushedLeft, pushedRight, rfl⟩ := (push_connective_eq_ok_iff known).1 run
    rw [compared_connective left' right' (Tag.operator?_known _), compared_connective left right known,
      ihLeft pushedLeft, ihRight pushedRight]
  | comparison tag op left right known compares _ =>
    obtain ⟨_, rfl⟩ := (push_comparison_eq_ok_iff known compares).1 run
    rw [compared_comparison left right (Tag.operator?_known _) (Operator.isLogical_signed compares kept),
      compared_comparison left right known compares]

/-- A filter whose negations have been carried out: its operators are those of the language, and its groups
hold expressions. -/
inductive Settled : Operand → Prop
  | comparison {op : Operator} {left right : Operand} : op.isLogical = false → SidesAreNodes left right →
      Settled (.expression (.known op) left right)
  | connective (c : Connective) {left right : Operand} : Settled left → Settled right →
      Settled (.expression (.known c.operator) left right)
  | group {content : Operand} : content.isExpression = true → Settled content → Settled (.group content)

theorem Settled.isFilter {t : Operand} (settled : t.Settled) : t.isFilter = true := by
  cases settled with
  | comparison | connective | group => rfl

theorem Settled.ungrouped {t : Operand} (settled : t.Settled) :
    t.ungrouped.isExpression = true ∧ t.ungrouped.Settled := by
  cases settled with
  | comparison compares sides => exact ⟨rfl, .comparison compares sides⟩
  | connective c left right => exact ⟨rfl, .connective c left right⟩
  | group expression content => exact ⟨expression, content⟩

/-- Whatever a push is given, what it yields is settled. A group that the content comes with is dropped, so that
no group is left right inside another. -/
theorem settled_of_push {t r : Operand} {kept : Bool} (run : t.push kept = .ok r) : r.Settled := by
  induction t using inductionByOperator generalizing kept r with
  | key | value | unfit | foreign => cases run
  | group content ih =>
    obtain ⟨inner, pushed, rfl⟩ := push_group_eq_ok_iff.1 run
    obtain ⟨expression, settled⟩ := (ih pushed).ungrouped
    exact .group expression settled
  | unknown tag left right unknown =>
    rw [push_unknown kept left right unknown] at run
    cases run
  | negation tag left right known ih =>
    rw [push_negation kept left right known] at run
    exact ih run
  | connective tag c left right known ihLeft ihRight =>
    obtain ⟨left', right', pushedLeft, pushedRight, rfl⟩ := (push_connective_eq_ok_iff known).1 run
    exact .connective (c.signed kept) (ihLeft pushedLeft) (ihRight pushedRight)
  | comparison tag op left right known compares _ =>
    obtain ⟨sides, rfl⟩ := (push_comparison_eq_ok_iff known compares).1 run
    exact .comparison (Operator.isLogical_signed compares kept) sides

/-- A single node as it may stand in a settled filter. -/
def IsSettledNode : Operand → Prop
  | .group content => content.isExpression = true
  | .expression (.known op) left right =>
    op ≠ .not ∧ (op = .and ∨ op = .or → left.isFilter = true ∧ right.isFilter = true)
  | _ => False

theorem Settled.nodes {t : Operand} (settled : t.Settled) : ∀ x ∈ t.skeleton, x.IsSettledNode := by
  induction settled with
  | @comparison op left right compares sides =>
    rw [skeleton_comparison left right (Tag.operator?_known op) compares, List.forall_mem_singleton]
    refine ⟨Operator.ne_not compares, ?_⟩
    rintro (rfl | rfl)
    · cases compares
    · cases compares
  | @connective c left right settledLeft settledRight nodesLeft nodesRight =>
    rw [skeleton_connective left right (Tag.operator?_known _), List.forall_mem_cons, List.forall_mem_append]
    exact ⟨⟨c.operator_ne_not, fun _ => ⟨settledLeft.isFilter, settledRight.isFilter⟩⟩, nodesLeft, nodesRight⟩
  | group expression _ nodes => exact List.forall_mem_cons.2 ⟨expression, nodes⟩

/-- Every comparison of the boolean skeleton has a field on its left and a value on its right. -/
def ComparesFields (t : Operand) : Prop :=
  ∀ sides ∈ t.compared, ∃ field v, sides = (.key field, .value v)

theorem WellFormed.comparesFields {t : Operand} (wellFormed : t.WellFormed) : t.ComparesFields := by
  induction wellFormed with
  | comparison field v known compares =>
    rw [ComparesFields, compared_comparison _ _ known compares, List.forall_mem_singleton]
    exact ⟨field, v, rfl⟩
  | connective c known _ _ left right =>
    rw [ComparesFields, compared_connective _ _ known, List.forall_mem_append]
    exact ⟨left, right⟩
  | negation right known _ ih =>
    rw [ComparesFields, compared_negation _ _ known]
    exact ih
  | group _ ih => exact ih

/-- No negation anywhere in the operand, be it on the side of a comparison. -/
def NegationFree : Operand → Prop
  | .group content => content.NegationFree
  | .expression tag left right => tag.operator? ≠ some .not ∧ left.NegationFree ∧ right.NegationFree
  | _ => True

theorem Settled.negationFree {t : Operand} (settled : t.Settled) (fields : t.ComparesFields) :
    t.NegationFree := by
  induction settled with
  | @comparison op left right compares _ =>
    rw [ComparesFields, compared_comparison left right (Tag.operator?_known op) compares,
      List.forall_mem_singleton] at fields
    obtain ⟨field, v, same⟩ := fields
    cases same
    exact ⟨fun same => Operator.ne_not compares (Option.some.inj same), trivial, trivial⟩
  | @connective c left right _ _ freeLeft freeRight =>
    rw [ComparesFields, compared_connective left right (Tag.operator?_known _), List.forall_mem_append] at fields
    exact ⟨fun same => c.operator_ne_not (Option.some.inj same), freeLeft fields.1, freeRight fields.2⟩
  | group _ _ free => exact free fields

end Operand

/-- The negation of any operand, if there is one, has no negation in its boolean skeleton, where all operators
are those of the language, groups hold expressions, and connectives stand between filters. If fields are
compared with values, no negation is left at all. -/
theorem negation_is_settled {t r : Operand} (run : t.negate = .ok r) :
    (∀ x ∈ r.skeleton, x.IsSettledNode) ∧ (t.ComparesFields → r.NegationFree) := by
  rw [Operand.negate_eq_push] at run
  have settled := Operand.settled_of_push run
  refine ⟨settled.nodes, fun fields => settled.negationFree ?_⟩
  rw [Operand.ComparesFields, Operand.compared_of_push run]
  exact fields

/-- In `NOT ((a = 1 AND (NOT ((b > 1)))))`, put together unchecked with plain texts for operators, groups stand
right inside groups. Of each pair one group is left. -/
theorem negation_of_nested_groups_is_settled :
    let compared (tag : Tag) (field : String) := Operand.expression tag (.key field) (.value (.scalar (.int 1)))
    let denied (x : Operand) := Operand.expression (.plain "NOT") x .absent
    let inner := Operand.group (denied (.group (.group (compared (.plain "GT") "b"))))
    let t := denied (.group (.group (.expression (.plain "AND") (compared (.plain "EQ") "a") inner)))
    let r := Operand.group (.expression (.known .and) (compared (.known .eq) "a")
      (.group (compared (.known .lte) "b")))
    t.negate = .ok r ∧ t.ComparesFields ∧ (∀ x ∈ r.skeleton, x.IsSettledNode) ∧ r.NegationFree := by
  intro compared denied inner t r
  have known (op : Operator) : (Tag.plain op.name).operator? = some op := op.ofName?_name
  have compare (op : Operator) (field : String) (compares : op.isLogical = false) :
      (compared (.plain op.name) field).WellFormed := .comparison field (.scalar (.int 1)) (known op) compares
  have wellFormed : t.WellFormed := .negation .absent (known .not)
    (.group (.group (.connective .and (known .and) (compare .eq "a" rfl)
      (.group (.negation .absent (known .not) (.group (.group (compare .gt "b" rfl))))))))
  have run : t.negate = .ok r := by
    rw [Operand.negate_eq_push]
    rfl
  obtain ⟨nodes, free⟩ := negation_is_settled run
  exact ⟨run, wellFormed.comparesFields, nodes, free wellFormed.comparesFields⟩

end FieldFilter
