import FieldFilter.Proofs.Fault
import FieldFilter.Proofs.RoundTrip

namespace FieldFilter

/-- What has come to a result goes on with it, if that is no error. -/
theorem run_bind_eq_some {ε α β : Type} {x : ExceptT ε Option α} {f : α → ExceptT ε Option β} {result : Except ε α}
    {next : α → Except ε β} (run : x.run = some result)
    (later : ∀ a, result = .ok a → (f a).run = some (next a)) : (x >>= f).run = some (result.bind next) := by
  rw [ExceptT.run_bind, run]
  cases result with
  | ok a => exact later a rfl
  | error e => rfl

namespace Operand

/-- The number of negations in the boolean skeleton. -/
def negations (t : Operand) : Nat :=
  t.skeleton.countP isNegation

section Equations

variable {tag : Tag} (left right : Operand)

theorem negations_group (content : Operand) : (Operand.group content).negations = content.negations := by
  rw [negations, skeleton, List.countP_cons]
  rfl

theorem negations_negation (known : tag.operator? = some .not) :
    (Operand.expression tag left right).negations = left.negations + 1 := by
  rw [negations, skeleton_negation left right known, List.countP_cons, isNegation, known]
  rfl

theorem negations_connective {c : Connective} (known : tag.operator? = some c.operator) :
    (Operand.expression tag left right).negations = left.negations + right.negations := by
  rw [negations, skeleton_connective left right known, List.countP_cons, List.countP_append, isNegation, known]
  cases c <;> rfl

theorem negations_comparison {op : Operator} (known : tag.operator? = some op) (compares : op.isLogical = false) :
    (Operand.expression tag left right).negations = 0 := by
  have positive := unnegated_comparison known compares left right
  exact List.countP_eq_zero.2 fun x member => by rw [positive x member]; exact Bool.false_ne_true

end Equations

theorem size_lt_of_group {content : Operand} {depth : Nat} (deep : (Operand.group content).size < depth + 1) :
    content.size < depth := by
  rw [size] at deep
  omega

theorem sizes_lt_of_expression {tag : Tag} {left right : Operand} {depth : Nat}
    (deep : (Operand.expression tag left right).size < depth + 1) : left.size < depth ∧ right.size < depth := by
  rw [size] at deep
  omega

/-- A push takes away a node for every negation, and adds none. -/
theorem size_add_negations_le_of_push {t r : Operand} {kept : Bool} (run : t.push kept = .ok r) :
    r.size + t.negations ≤ t.size := by
  induction t using inductionByOperator generalizing kept r with
  | key | value | unfit | foreign => cases run
  | group content ih =>
    obtain ⟨inner, pushed, rfl⟩ := push_group_eq_ok_iff.1 run
    have dropped := size_ungrouped_le inner
    have bound := ih pushed
    rw [negations_group, size, size]
    omega
  | unknown tag left right unknown =>
    rw [push_unknown kept left right unknown] at run
    cases run
  | negation tag left right known ih =>
    rw [push_negation kept left right known] at run
    have bound := ih run
    rw [negations_negation left right known, size]
    omega
  | connective tag c left right known ihLeft ihRight =>
    obtain ⟨left', right', pushedLeft, pushedRight, rfl⟩ := (push_connective_eq_ok_iff known).1 run
    have boundLeft := ihLeft pushedLeft
    have boundRight := ihRight pushedRight
    rw [negations_connective left right known, size, size]
    omega
  | comparison tag op left right known compares _ =>
    obtain ⟨_, rfl⟩ := (push_comparison_eq_ok_iff known compares).1 run
    rw [negations_comparison left right known compares, Nat.add_zero]
    exact Nat.le_refl _

/-- The result of a checked construction, which calls nothing. -/
def built (made : Except ValidationError Operand) : ExceptT FilterError Option Operand :=
  .mk (some (made.mapError .invalid))

/-- Negation with a limit to how deep its calls may be nested, and without a result if they have to be nested deeper.
It goes on with results of its own, and no measure says that this ends. -/
def negateWithin : Nat → Operand → ExceptT FilterError Option Operand
  | 0, _ => .mk none
  | depth + 1, .group content => do
    let inner ← negateWithin depth content
    built (checkedGroup inner.ungrouped)
  | depth + 1, .expression tag left right =>
    match tag.operator? with
    | none => throw (.noOpposite tag)
    | some op =>
      if op = .not then do
        let once ← negateWithin depth left
        negateWithin depth once
      else if op.isLogical then do
        let left' ← negateWithin depth left
        let right' ← negateWithin depth right
        built (checkedExpression (op.signed false) left' right')
      else built (checkedExpression (op.signed false) left right)
  | _ + 1, t => throw (.notNegatable t.typeName)

theorem negateWithin_of_size_lt {t : Operand} {depth : Nat} (deep : t.size < depth) :
    (negateWithin depth t).run = some t.negate := by
  induction depth generalizing t with
  | zero => exact absurd deep (Nat.not_lt_zero _)
  | succ depth ih =>
    induction t using inductionByOperator with
    | key | value | unfit | foreign =>
      rw [negate_of_not_filter rfl]
      rfl
    | group content =>
      have inside := size_lt_of_group deep
      have grouped (inner : Operand) (run : content.negate = .ok inner) :
          (built (checkedGroup inner.ungrouped)).run = some (.ok (.group inner.ungrouped)) := by
        rw [(checks_pass_on_negated run run .and).1]
        rfl
      have whole := run_bind_eq_some (ih inside) grouped
      rw [negate_group, negateWithin]
      exact whole
    | unknown tag left right unknown =>
      rw [negate_unknown unknown, negateWithin, unknown]
      rfl
    | negation tag left right known =>
      obtain ⟨inside, _⟩ := sizes_lt_of_expression deep
      have again (once : Operand) (run : left.negate = .ok once) :
          (negateWithin depth once).run = some once.negate :=
        ih (Nat.lt_of_le_of_lt (size_le_of_negate run) inside)
      have whole := run_bind_eq_some (ih inside) again
      simp only [negate_not known, negateWithin, known, if_true]
      exact whole
    | connective tag c left right known =>
      obtain ⟨insideLeft, insideRight⟩ := sizes_lt_of_expression deep
      have joined (left' right' : Operand) (runLeft : left.negate = .ok left') (runRight : right.negate = .ok right') :
          (built (checkedExpression c.opposite.operator left' right')).run =
            some (.ok (.expression (.known c.opposite.operator) left' right')) := by
        rw [(checks_pass_on_negated runLeft runRight c.opposite.operator).2]
        rfl
      have whole := run_bind_eq_some (ih insideLeft) fun left' runLeft =>
        run_bind_eq_some (ih insideRight) fun right' runRight => joined left' right' runLeft runRight
      simp only [negate_connective known c.swapped, negateWithin, known, if_neg c.operator_ne_not,
        c.isLogical_operator, if_true]
      cases c <;> exact whole
    | comparison tag op left right known compares =>
      obtain ⟨other, paired, _⟩ := Operator.opposite?_comparison compares
      have signed : op.signed false = other := by simp [Operator.signed, paired]
      simp only [negate_comparison known compares paired, negateWithin, known, if_neg (Operator.ne_not compares),
        compares, Bool.false_eq_true, if_false, signed]
      rfl

/-- Writing with a limit to how deep its calls may be nested, those of the negations that it carries out included. -/
def writeWithin (d : Dialect) (settings : Settings) : Nat → Operand → Option Writer
  | 0, _ => none
  | depth + 1, .group content =>
    (writeWithin d settings depth content).map fun inner => do
      Writer.append d.groupOpen
      inner
      Writer.append d.groupClose
  | depth + 1, .expression tag left right =>
    if lacksValue tag right then some (throw (.malformed tag right.typeName))
    else if tag.operator? = some .not then
      match (negateWithin depth left).run with
      | some (.ok r) => writeWithin d settings depth r
      | some (.error e) => some (throw e)
      | none => none
    else if isEmptyMembership tag right then some (Writer.append (d.emptyMembershipText tag))
    else
      (writeWithin d settings depth left).bind fun writeLeft =>
        (writeWithin d settings depth right).map fun writeRight =>
          Writer.assemble (Writer.appendOr (d.symbolText tag)) writeLeft writeRight (d.arrange tag left right)
  | _ + 1, .key name => some (Writer.appendOr (d.fieldText settings name))
  | _ + 1, .value v => some (Writer.append (d.valueText v))
  | _ + 1, .unfit u => some (Writer.appendOr (d.unfitText settings u))
  | _ + 1, .foreign x => some (throw (.unexpectedOperand x.typeName))

theorem writeWithin_of_size_lt (d : Dialect) (settings : Settings) {t : Operand} {depth : Nat}
    (deep : t.size < depth) : writeWithin d settings depth t = some (t.write d settings) := by
  induction depth generalizing t with
  | zero => exact absurd deep (Nat.not_lt_zero _)
  | succ depth ih =>
    cases t with
    | key name => rw [writeWithin, write]
    | value v => rw [writeWithin, write]
    | unfit u => rw [writeWithin, write]
    | foreign x => rw [writeWithin, write]
    | group content =>
      have inside := size_lt_of_group deep
      rw [writeWithin, ih inside, write]
      rfl
    | expression tag left right =>
      obtain ⟨insideLeft, insideRight⟩ := sizes_lt_of_expression deep
      rw [writeWithin]
      by_cases lacks : lacksValue tag right = true
      · rw [if_pos lacks, write, if_pos lacks]
      rw [if_neg lacks]
      by_cases known : tag.operator? = some .not
      · rw [if_pos known, negateWithin_of_size_lt insideLeft]
        cases run : left.negate with
        | ok r =>
          have shrunk := size_le_of_negate run
          rw [write_negation known run]
          exact ih (Nat.lt_of_le_of_lt shrunk insideLeft)
        | error e => rw [write_negation_fails known run]
      rw [if_neg known]
      by_cases empty : isEmptyMembership tag right = true
      · rw [if_pos empty, write, if_neg lacks, if_neg known, if_pos empty]
      · rw [if_neg empty, ih insideLeft, ih insideRight, write, if_neg lacks, if_neg known, if_neg empty]
        rfl

end Operand

/-- Whatever is negated, the result and the negations of the boolean skeleton together have no more nodes than the
operand. So both recursions come to an end, although a negation goes on with a rewritten operand: calls that are
nested one deeper than there are nodes do all of the negating, and all of the writing in any dialect. -/
theorem negating_shrinks_and_ends (t : Operand) :
    (∀ r, t.negate = .ok r → r.size + t.negations ≤ t.size) ∧
      ∀ depth, t.size < depth → (Operand.negateWithin depth t).run = some t.negate ∧
        ∀ (d : Dialect) (settings : Settings),
          Operand.writeWithin d settings depth t = some (t.write d settings) := by
  refine ⟨fun r run => ?_, fun depth deep => ⟨Operand.negateWithin_of_size_lt deep, fun d settings => ?_⟩⟩
  · rw [Operand.negate_eq_push] at run
    exact Operand.size_add_negations_le_of_push run
  · exact Operand.writeWithin_of_size_lt d settings deep

/-- The negation of `NOT ((NOT (a = 0) AND NOT (NOT (b = 0))))` loses nothing but its four negations. It is there with
calls nested thirteen deep, and not there yet with calls nested two deep. -/
theorem negating_nested_negations_ends :
    let compared (op : Operator) (field : String) :=
      Operand.expression (.known op) (.key field) (.value (.scalar (.int 0)))
    let denied (x : Operand) := Operand.expression (.plain "NOT") x .absent
    let both (left right : Operand) := Operand.expression (.known .and) left right
    let t := denied (.group (both (denied (compared .eq "a")) (denied (denied (compared .eq "b")))))
    let r := Operand.group (both (compared .ne "a") (compared .eq "b"))
    t.negate = .ok r ∧ (r.size = 8 ∧ t.negations = 4 ∧ t.size = 12) ∧ r.size + t.negations ≤ t.size ∧
      (Operand.negateWithin 2 t).run = none ∧ (Operand.negateWithin 13 t).run = some (.ok r) := by
  intro compared denied both t r
  have run : t.negate = .ok r := by
    rw [Operand.negate_eq_push]
    rfl
  obtain ⟨shrinks, ends⟩ := negating_shrinks_and_ends t
  have whole := (ends 13 (by decide)).1
  rw [run] at whole
  exact ⟨run, ⟨by decide, by decide, by decide⟩, shrinks r run, rfl, whole⟩

end FieldFilter
