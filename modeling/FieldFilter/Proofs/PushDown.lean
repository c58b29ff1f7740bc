import FieldFilter.Proofs.WellFormed

namespace FieldFilter

section Relabelling

variable {α ε ε' : Type}

@[simp] theorem mapError_ok (f : ε → ε') (a : α) : (Except.ok a).mapError f = .ok a := rfl

@[simp] theorem mapError_error (f : ε → ε') (e : ε) :
    (Except.error e : Except ε α).mapError f = .error (f e) := rfl

end Relabelling

theorem even_succ (n : Nat) : ((n + 1) % 2 == 0) = !(n % 2 == 0) := by
  rcases Nat.mod_two_eq_zero_or_one n with even | odd
  · simp [Nat.add_mod, even]
  · simp [Nat.add_mod, odd]

namespace Connective

/-- The connective under a sign: it stays as it is, or gives way to the other one. -/
def signed (c : Connective) (kept : Bool) : Connective :=
  if kept then c else c.opposite

theorem signed_signed (c : Connective) (first second : Bool) :
    (c.signed first).signed second = c.signed (first == second) := by
  cases first <;> cases second <;> simp [signed]

end Connective

namespace Operator

/-- An operator is the negation, a connective, or compares. -/
theorem kinds (op : Operator) : op = .not ∨ (∃ c : Connective, op = c.operator) ∨ op.isLogical = false := by
  cases op with
  | not => exact Or.inl rfl
  | and => exact Or.inr (Or.inl ⟨.and, rfl⟩)
  | or => exact Or.inr (Or.inl ⟨.or, rfl⟩)
  | _ => exact Or.inr (Or.inr rfl)

/-- The operator under a sign: it stays as it is, or gives way to its opposite. -/
def signed (op : Operator) (kept : Bool) : Operator :=
  if kept then op else op.opposite?.getD op

theorem isLogical_signed {op : Operator} (compares : op.isLogical = false) (kept : Bool) :
    (op.signed kept).isLogical = false := by
  cases kept
  · cases op <;> simp_all [signed, opposite?, isLogical]
  · exact compares

theorem isMembership_signed (op : Operator) (kept : Bool) :
    (op.signed kept).isMembership = op.isMembership := by
  cases kept
  · cases op <;> rfl
  · rfl

theorem signed_signed (op : Operator) (first second : Bool) :
    (op.signed first).signed second = op.signed (first == second) := by
  cases first <;> cases second <;> cases op <;> rfl

end Operator

namespace Operand

/-- Induction over operands in which expressions are told apart by what their operator does. -/
@[elab_as_elim]
theorem inductionByOperator {motive : Operand → Prop} (key : ∀ name, motive (.key name))
    (value : ∀ v, motive (.value v)) (unfit : ∀ u, motive (.unfit u)) (foreign : ∀ d, motive (.foreign d))
    (group : ∀ content, motive content → motive (.group content))
    (unknown : ∀ tag left right, tag.operator? = none → motive left → motive (.expression tag left right))
    (negation : ∀ tag left right, tag.operator? = some .not → motive left →
      motive (.expression tag left right))
    (connective : ∀ tag (c : Connective) left right, tag.operator? = some c.operator → motive left →
      motive right → motive (.expression tag left right))
    (comparison : ∀ tag op left right, tag.operator? = some op → op.isLogical = false → motive left →
      motive (.expression tag left right))
    (t : Operand) : motive t := by
  induction t with
  | key name => exact key name
  | value v => exact value v
  | unfit u => exact unfit u
  | foreign d => exact foreign d
  | group content ih => exact group content ih
  | expression tag left right ihLeft ihRight =>
    cases known : tag.operator? with
    | none => exact unknown tag left right known ihLeft
    | some op =>
      rcases op.kinds with rfl | ⟨c, rfl⟩ | compares
      · exact negation tag left right known ihLeft
      · exact connective tag c left right known ihLeft ihRight
      · exact comparison tag op left right known compares ihLeft

/-- Carries out the negations of a filter in one pass, on the filter itself or on its negation. The sign says
which of the two; it turns around below every negation. -/
def push (kept : Bool) : Operand → Except FilterError Operand
  | .group content => (content.push kept).map fun inner => .group inner.ungrouped
  | .expression tag left right =>
    match tag.operator? with
    | none => .error (.noOpposite tag)
    | some .not => left.push !kept
    | some .and => (left.push kept).bind fun left' =>
        (right.push kept).map (.expression (.known (Connective.and.signed kept).operator) left')
    | some .or => (left.push kept).bind fun left' =>
        (right.push kept).map (.expression (.known (Connective.or.signed kept).operator) left')
    | some op => (checkedExpression (op.signed kept) left right).mapError .invalid
  | t => .error (.notNegatable t.typeName)

section Equations

variable {tag : Tag} (kept : Bool) (left right : Operand)

theorem push_group (content : Operand) :
    (Operand.group content).push kept = (content.push kept).map fun inner => .group inner.ungrouped := rfl

theorem push_unknown (unknown : tag.operator? = none) :
    (Operand.expression tag left right).push kept = .error (.noOpposite tag) := by
  rw [push, unknown]

theorem push_negation (known : tag.operator? = some .not) :
    (Operand.expression tag left right).push kept = left.push !kept := by
  rw [push, known]

theorem push_connective {c : Connective} (known : tag.operator? = some c.operator) :
    (Operand.expression tag left right).push kept = (left.push kept).bind fun left' =>
      (right.push kept).map (.expression (.known (c.signed kept).operator) left') := by
  cases c <;> simp only [Connective.operator] at known <;> rw [push, known]

theorem push_comparison {op : Operator} (known : tag.operator? = some op) (compares : op.isLogical = false) :
    (Operand.expression tag left right).push kept =
      (checkedExpression (op.signed kept) left right).mapError .invalid := by
  rw [push, known]
  cases op <;> simp_all [Operator.isLogical]

end Equations

section Results

variable {kept : Bool} {left right r : Operand} {tag : Tag}

theorem push_group_eq_ok_iff {content : Operand} :
    (Operand.group content).push kept = .ok r ↔
      ∃ inner, content.push kept = .ok inner ∧ r = .group inner.ungrouped := by
  rw [push_group]
  cases content.push kept <;> simp [Except.map, eq_comm]

theorem push_connective_eq_ok_iff {c : Connective} (known : tag.operator? = some c.operator) :
    (Operand.expression tag left right).push kept = .ok r ↔
      ∃ left' right', left.push kept = .ok left' ∧ right.push kept = .ok right' ∧
        r = .expression (.known (c.signed kept).operator) left' right' := by
  rw [push_connective kept left right known]
  cases left.push kept <;> cases right.push kept <;> simp [Except.map, Except.bind, eq_comm]

theorem push_comparison_eq_ok_iff {op : Operator} (known : tag.operator? = some op)
    (compares : op.isLogical = false) :
    (Operand.expression tag left right).push kept = .ok r ↔
      (left.isNode = true ∧ (right.isAbsent = true ∨ right.isNode = true)) ∧
        r = .expression (.known (op.signed kept)) left right := by
  rw [push_comparison kept left right known compares, ← checkedExpression_eq_ok_iff]
  cases checkedExpression (op.signed kept) left right <;> simp

/-- A sign can be put on the result of a push, and the two signs come together. -/
theorem push_push {t : Operand} {first : Bool} (second : Bool) (run : t.push first = .ok r) :
    r.push second = t.push (first == second) := by
  induction t using inductionByOperator generalizing first r with
  | key | value | unfit | foreign => cases run
  | group content ih =>
    obtain ⟨inner, pushed, rfl⟩ := push_group_eq_ok_iff.1 run
    rw [push_group, push_group, ← ih pushed]
    cases inner with
    | group x =>
      -- The group that was dropped would come back from the second push, and is dropped there as well.
      rw [ungrouped, push_group]
      cases x.push second <;> rfl
    | key | value | expression | unfit | foreign => rfl
  | unknown tag left right unknown =>
    rw [push_unknown first left right unknown] at run
    cases run
  | negation tag left right known ih =>
    rw [push_negation first left right known] at run
    rw [push_negation _ left right known, ih run]
    cases first <;> cases second <;> rfl
  | connective tag c left right known ihLeft ihRight =>
    obtain ⟨left', right', pushedLeft, pushedRight, rfl⟩ := (push_connective_eq_ok_iff known).1 run
    rw [push_connective _ left' right' (Tag.operator?_known _), push_connective _ left right known,
      ihLeft pushedLeft, ihRight pushedRight, Connective.signed_signed]
  | comparison tag op left right known compares _ =>
    obtain ⟨_, rfl⟩ := (push_comparison_eq_ok_iff known compares).1 run
    rw [push_comparison _ left right (Tag.operator?_known _) (Operator.isLogical_signed compares first),
      push_comparison _ left right known compares, Operator.signed_signed]

end Results

/-- The operands at which a push ends, from left to right: it passes through groups, connectives and
negations. -/
def leaves : Operand → List Operand
  | .group content => content.leaves
  | .expression tag left right =>
    match tag.operator? with
    | some .and | some .or => left.leaves ++ right.leaves
    | some .not => left.leaves
    | _ => [.expression tag left right]
  | t => [t]

theorem leaves_connective {tag : Tag} {c : Connective} (known : tag.operator? = some c.operator)
    (left right : Operand) : (Operand.expression tag left right).leaves = left.leaves ++ right.leaves := by
  cases c <;> simp only [Connective.operator] at known <;> rw [leaves, known]

theorem leaves_comparison {tag : Tag} {op : Operator} (known : tag.operator? = some op)
    (compares : op.isLogical = false) (left right : Operand) :
    (Operand.expression tag left right).leaves = [.expression tag left right] := by
  rw [leaves, known]
  cases op <;> simp_all [Operator.isLogical]

/-- Why a leaf cannot be negated, if it cannot. Both sides of a comparison have to be nodes, since it is built
anew. -/
def refusal : Operand → Option FilterError
  | .expression tag left right =>
    if tag.operator?.isNone then some (.noOpposite tag)
    else if (sideIssues left right).isEmpty then none
    else some (.invalid ⟨sideIssues left right⟩)
  | t => some (.notNegatable t.typeName)

/-- A push fails with what the first leaf that refuses has to say, under either sign. -/
theorem push_eq_error_iff {t : Operand} {kept : Bool} {e : FilterError} :
    t.push kept = .error e ↔ t.leaves.findSome? refusal = some e := by
  induction t using inductionByOperator generalizing kept e with
  | key | value | unfit | foreign => simp [push, leaves, refusal]
  | group content ih =>
    have inner : content.push kept = .error e ↔ content.leaves.findSome? refusal = some e := ih
    rw [push_group, leaves, ← inner]
    cases content.push kept <;> simp [Except.map]
  | unknown tag left right unknown =>
    rw [push_unknown kept left right unknown, leaves, unknown]
    simp [refusal, unknown]
  | negation tag left right known ih =>
    rw [push_negation kept left right known, leaves, known]
    exact ih
  | connective tag c left right known ihLeft ihRight =>
    rw [push_connective kept left right known, leaves_connective known, List.findSome?_append]
    cases pushedLeft : left.push kept with
    | error e' =>
      rw [ihLeft.1 pushedLeft]
      simp [Except.bind]
    | ok left' =>
      have passed : left.leaves.findSome? refusal = none :=
        Option.eq_none_iff_forall_ne_some.2 fun e' refused => by
          have failed : left.push kept = .error e' := ihLeft.2 refused
          rw [pushedLeft] at failed
          cases failed
      have decides : right.push kept = .error e ↔ right.leaves.findSome? refusal = some e := ihRight
      rw [passed, Option.none_or, ← decides]
      cases right.push kept <;> simp [Except.bind, Except.map]
  | comparison tag op left right known compares =>
    rw [push_comparison kept left right known compares, leaves_comparison known compares]
    simp only [List.findSome?_singleton, refusal, known, checkedExpression]
    cases sideIssues left right <;> simp

theorem push_fails_either_way {t : Operand} {kept : Bool} {e : FilterError} (failed : t.push kept = .error e)
    (other : Bool) : t.push other = .error e :=
  push_eq_error_iff.2 (push_eq_error_iff.1 failed)

/-- Negation, which goes twice over what is below a doubled negation, comes to a single push. -/
theorem negate_eq_push (t : Operand) : t.negate = t.push false := by
  induction size : t.size using Nat.strongRecOn generalizing t with
  | ind n ih =>
    subst size
    have smaller (x : Operand) (less : x.size < t.size) := ih x.size less x rfl
    induction t using inductionByOperator with
    | key | value | unfit | foreign => exact negate_of_not_filter rfl
    | group content =>
      rw [negate_group, push_group, smaller content (by simp [size])]
    | unknown tag left right unknown =>
      rw [negate_unknown unknown, push_unknown false left right unknown]
    | negation tag left right known =>
      have sub : left.size < (Operand.expression tag left right).size := by simp only [size]; omega
      rw [negate_not known, push_negation false left right known, smaller left sub]
      cases run : left.push false with
      | error e => exact (push_fails_either_way run true).symm
      | ok once =>
        have shrunk := size_le_of_negate ((smaller left sub).trans run)
        have again := smaller once (by omega)
        exact again.trans (push_push false run)
    | connective tag c left right known =>
      rw [negate_connective known c.swapped, push_connective false left right known,
        smaller left (by simp only [size]; omega), smaller right (by simp only [size]; omega)]
      rfl
    | comparison tag op left right known compares =>
      obtain ⟨other, paired, _⟩ := Operator.opposite?_comparison compares
      rw [negate_comparison known compares paired, push_comparison false left right known compares]
      simp [Operator.signed, paired]

/-- What a push yields is a filter, and an expression once its own group is dropped. -/
theorem expression_of_push {t r : Operand} {kept : Bool} (run : t.push kept = .ok r) :
    r.isFilter = true ∧ ∃ tag left right, r.ungrouped = .expression tag left right := by
  induction t using inductionByOperator generalizing kept r with
  | key | value | unfit | foreign => cases run
  | group content ih =>
    obtain ⟨inner, pushed, rfl⟩ := push_group_eq_ok_iff.1 run
    exact ⟨rfl, (ih pushed).2⟩
  | unknown tag left right unknown =>
    rw [push_unknown kept left right unknown] at run
    cases run
  | negation tag left right known ih =>
    rw [push_negation kept left right known] at run
    exact ih run
  | connective tag c left right known _ _ =>
    obtain ⟨left', right', _, _, rfl⟩ := (push_connective_eq_ok_iff known).1 run
    exact ⟨rfl, _, left', right', rfl⟩
  | comparison tag op left right known compares _ =>
    obtain ⟨_, rfl⟩ := (push_comparison_eq_ok_iff known compares).1 run
    exact ⟨rfl, _, left, right, rfl⟩

/-- Groups and connectives around negated operands pass the checks of construction, so that negation need not
carry them out. -/
theorem checks_pass_on_negated {left right left' right' : Operand} (runLeft : left.negate = .ok left')
    (runRight : right.negate = .ok right') (op : Operator) :
    checkedGroup left'.ungrouped = .ok (.group left'.ungrouped) ∧
      checkedExpression op left' right' = .ok (.expression (.known op) left' right') := by
  rw [negate_eq_push] at runLeft runRight
  have isNode {t : Operand} (filter : t.isFilter = true) : t.isNode = true := by
    cases t with
    | expression | group => rfl
    | key | value | unfit | foreign => cases filter
  obtain ⟨filterLeft, tag, l, r, shape⟩ := expression_of_push runLeft
  have nodeRight := isNode (expression_of_push runRight).1
  refine ⟨by rw [shape, checkedGroup], checkedExpression_eq_ok_iff.2 ⟨?_, rfl⟩⟩
  exact ⟨isNode filterLeft, Or.inr nodeRight⟩

end Operand

end FieldFilter
