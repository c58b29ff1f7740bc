import FieldFilter.Proofs.Acceptance
import FieldFilter.Proofs.Settled

namespace FieldFilter

namespace Operand

/-- What checked construction vouches for in the boolean skeleton: its operators are those of the language, its
groups hold expressions, and comparisons have nodes on their sides. It ends at whatever is no filter. -/
inductive Checked : Operand → Prop
  | bare {t : Operand} : t.isFilter = false → Checked t
  | group {content : Operand} : content.isExpression = true → Checked content → Checked (.group content)
  | negation {left : Operand} (right : Operand) : Checked left → Checked (.expression (.known .not) left right)
  | connective (c : Connective) {left right : Operand} : Checked left → Checked right →
      Checked (.expression (.known c.operator) left right)
  | comparison {op : Operator} {left right : Operand} : op.isLogical = false → SidesAreNodes left right →
      Checked (.expression (.known op) left right)

theorem isExpression_of_checkedGroup {content t : Operand} (built : checkedGroup content = .ok t) :
    content.isExpression = true := by
  cases content with
  | expression => rfl
  | key | value | group | unfit | foreign => cases built

theorem Built.checked {t : Operand} (built : t.Built) : t.Checked := by
  induction built with
  | key made =>
    obtain ⟨s, rfl⟩ := checkedKey_eq_ok made
    exact .bare rfl
  | value made =>
    obtain ⟨v, rfl⟩ := checkedValue_eq_ok made
    exact .bare rfl
  | group _ made ih =>
    cases checkedGroup_eq_ok made
    exact .group (isExpression_of_checkedGroup made) ih
  | @expression operator left right t _ _ made checkedLeft ihRight =>
    obtain ⟨op, nodes, rfl⟩ := checkedExpressionOf_eq_ok made
    rcases op.kinds with rfl | ⟨c, rfl⟩ | compares
    · exact .negation right checkedLeft
    · have checkedRight : right.Checked := by
        cases missing : right.isAbsent with
        | false => exact ihRight missing
        | true =>
          cases isAbsent_iff.1 missing
          exact .bare rfl
      exact .connective c checkedLeft checkedRight
    · exact .comparison compares nodes

/-- The filter without its negations, or its negation without any, in one pass that checks nothing. The sign says
which of the two is meant, and turns around below a negation. Under a positive sign connectives and comparisons
stay, under a negative one they give way to their opposites. What has no negation is refused where it is first
met from the left. -/
def settle (kept : Bool) : Operand → Except FilterError Operand
  | .group content => (content.settle kept).map fun inner => .group inner.ungrouped
  | .expression tag left right =>
    match tag.operator? with
    | some .not => left.settle !kept
    | some .and => (left.settle kept).bind fun left' =>
        (right.settle kept).map (.expression (.known (if kept then .and else .or)) left')
    | some .or => (left.settle kept).bind fun left' =>
        (right.settle kept).map (.expression (.known (if kept then .or else .and)) left')
    | some op =>
      .ok (if kept then .expression tag left right else .expression (.known (op.opposite?.getD op)) left right)
    | none => .error (.notNegatable (Operand.expression tag left right).typeName)
  | t => .error (.notNegatable t.typeName)

theorem settle_connective (kept : Bool) {tag : Tag} {c : Connective} (known : tag.operator? = some c.operator)
    (left right : Operand) :
    (Operand.expression tag left right).settle kept = (left.settle kept).bind fun left' =>
      (right.settle kept).map (.expression (.known (c.signed kept).operator) left') := by
  cases c <;> cases kept <;> simp only [Connective.operator] at known <;> rw [settle, known] <;> rfl

theorem settle_comparison (kept : Bool) {op : Operator} (compares : op.isLogical = false)
    (left right : Operand) :
    (Operand.expression (.known op) left right).settle kept =
      .ok (.expression (.known (op.signed kept)) left right) := by
  cases op <;> cases kept <;> first | rfl | cases compares

/-- On what is checked, the checks of a push have nothing to find. -/
theorem Checked.push_eq_settle {t : Operand} (checked : t.Checked) (kept : Bool) :
    t.push kept = t.settle kept := by
  induction checked generalizing kept with
  | @bare t bare =>
    cases t with
    | key | value | unfit | foreign => rfl
    | expression | group => cases bare
  | group _ _ ih => rw [push_group, settle, ih]
  | negation right _ ih =>
    rw [push_negation kept _ right (Tag.operator?_known _), ih]
    rfl
  | connective c _ _ ihLeft ihRight =>
    rw [push_connective kept _ _ (Tag.operator?_known _), settle_connective kept (Tag.operator?_known _), ihLeft,
      ihRight]
  | comparison compares sides =>
    rw [settle_comparison kept compares]
    exact (push_comparison_eq_ok_iff (Tag.operator?_known _) compares).2 ⟨sides, rfl⟩

/-- A result of negation can be negated again, which comes to a push of the operand under a positive sign. -/
theorem negate_negated {t r : Operand} (run : t.negate = .ok r) :
    ∃ r', r.negate = .ok r' ∧ t.push true = .ok r' := by
  rw [negate_eq_push] at run
  rw [negate_eq_push, push_push false run]
  cases again : t.push true with
  | ok r' => exact ⟨r', again, rfl⟩
  | error e =>
    rw [push_fails_either_way again false] at run
    cases run

end Operand

/-- Negation, which goes over an operand again and again, comes to one pass with a negative sign, in its result
as in its error. A second negation comes to one pass with a positive sign, and never fails where the first one
did not. -/
theorem negation_eq_one_pass {t : Operand} (built : t.Built) :
    t.negate = t.settle false ∧ ∀ r, t.negate = .ok r → ∃ r', r.negate = .ok r' ∧ t.settle true = .ok r' := by
  have checked := built.checked
  refine ⟨?_, fun r run => ?_⟩
  · rw [Operand.negate_eq_push, checked.push_eq_settle]
  · rw [← checked.push_eq_settle]
    exact Operand.negate_negated run

/-- The filter `NOT (a = 1 OR (NOT (b > 1)))` is negated to `a = 1 OR (b <= 1)`, and that to
`a != 1 AND (b > 1)`. Of two operands that cannot be negated, the left one is reported. -/
theorem negations_in_one_pass :
    let compared (op : Operator) (field : String) := Operand.expression (.known op) (.key field)
      (.value (.scalar (.int 1)))
    let denied (x : Operand) := Operand.expression (.known .not) x .absent
    let joined (op : Operator) (left right : Operand) := Operand.expression (.known op) left right
    let t := denied (joined .or (compared .eq "a") (.group (denied (.group (compared .gt "b")))))
    let r := joined .or (compared .eq "a") (.group (compared .lte "b"))
    let r' := joined .and (compared .ne "a") (.group (compared .gt "b"))
    let u := joined .and (denied (.key "a")) (.value (.scalar (.int 1)))
    (t.Built ∧ t.negate = .ok r ∧ t.settle false = .ok r ∧ r.negate = .ok r' ∧ t.settle true = .ok r') ∧
      u.Built ∧ u.negate = .error (.notNegatable "Key") := by
  intro compared denied joined t r r' u
  have compare (op : Operator) {name : String} (visible : isBlankText name = false) : (compared op name).Built :=
    .of_sides op (.field visible) fun _ => .scalar (.int 1)
  have group {x y z : Operand} {tag : Tag} (built : x.Built) (shape : x = .expression tag y z) :
      (Operand.group x).Built := .group built (by rw [shape]; rfl)
  have builtT : t.Built := .denied (.of_sides .or (compare .eq (by decide)) fun _ =>
    group (.denied (group (compare .gt (by decide)) rfl)) rfl)
  have builtU : u.Built := .of_sides .and (.denied (.field (by decide))) fun _ => .scalar (.int 1)
  obtain ⟨once, twice⟩ := negation_eq_one_pass builtT
  have run : t.negate = .ok r := once.trans rfl
  obtain ⟨x, again, pushed⟩ := twice r run
  have same : x = r' := Except.ok.inj (pushed.symm.trans rfl)
  subst same
  exact ⟨⟨builtT, run, rfl, again, pushed⟩, builtU, (negation_eq_one_pass builtU).1.trans rfl⟩

namespace Operand

def isNegation : Operand → Bool
  | .expression tag _ _ => tag.operator? == some .not
  | _ => false

/-- No negation is in the boolean skeleton. -/
def Unnegated (t : Operand) : Prop :=
  ∀ x ∈ t.skeleton, x.isNegation = false

instance (t : Operand) : Decidable t.Unnegated :=
  inferInstanceAs (Decidable (∀ x ∈ t.skeleton, x.isNegation = false))

theorem unnegated_group_iff {content : Operand} : (Operand.group content).Unnegated ↔ content.Unnegated := by
  rw [Unnegated, skeleton, List.forall_mem_cons]
  exact and_iff_right rfl

theorem unnegated_connective_iff {tag : Tag} {c : Connective} (known : tag.operator? = some c.operator)
    {left right : Operand} :
    (Operand.expression tag left right).Unnegated ↔ left.Unnegated ∧ right.Unnegated := by
  have positive : (Operand.expression tag left right).isNegation = false := by
    rw [isNegation, known]
    cases c <;> rfl
  rw [Unnegated, skeleton_connective left right known, List.forall_mem_cons, List.forall_mem_append]
  exact and_iff_right positive

theorem not_unnegated_negation {tag : Tag} (known : tag.operator? = some .not) (left right : Operand) :
    ¬(Operand.expression tag left right).Unnegated := by
  intro unnegated
  have positive := unnegated (.expression tag left right) (by
    rw [skeleton_negation left right known]
    exact List.mem_cons_self)
  rw [isNegation, known] at positive
  cases positive

theorem unnegated_comparison {tag : Tag} {op : Operator} (known : tag.operator? = some op)
    (compares : op.isLogical = false) (left right : Operand) : (Operand.expression tag left right).Unnegated := by
  rw [Unnegated, skeleton_comparison left right known compares, List.forall_mem_singleton, isNegation, known,
    Option.some_beq_some, beq_eq_false_iff_ne]
  exact Operator.ne_not compares

/-- What is checked, can be negated and has no negation in its skeleton is settled as it stands. -/
theorem Checked.settled {t r : Operand} {kept : Bool} (checked : t.Checked) (run : t.push kept = .ok r)
    (unnegated : t.Unnegated) : t.Settled := by
  induction checked generalizing kept r with
  | @bare t bare =>
    have filter : t.isFilter = false := bare
    cases t with
    | key | value | unfit | foreign => cases run
    | expression | group => cases filter
  | group expression _ ih =>
    obtain ⟨inner, pushed, _⟩ := push_group_eq_ok_iff.1 run
    exact .group expression (ih pushed (unnegated_group_iff.1 unnegated))
  | negation right _ _ => exact absurd unnegated (not_unnegated_negation (Tag.operator?_known _) _ right)
  | connective c _ _ ihLeft ihRight =>
    obtain ⟨left', right', pushedLeft, pushedRight, _⟩ :=
      (push_connective_eq_ok_iff (Tag.operator?_known _)).1 run
    obtain ⟨unnegatedLeft, unnegatedRight⟩ := (unnegated_connective_iff (Tag.operator?_known _)).1 unnegated
    exact .connective c (ihLeft pushedLeft unnegatedLeft) (ihRight pushedRight unnegatedRight)
  | comparison compares sides => exact .comparison compares sides

/-- There is nothing to do for a push on a settled filter that keeps its sign. -/
theorem Settled.push_true {t : Operand} (settled : t.Settled) : t.push true = .ok t := by
  induction settled with
  | comparison compares sides =>
    exact (push_comparison_eq_ok_iff (Tag.operator?_known _) compares).2 ⟨sides, rfl⟩
  | connective c _ _ ihLeft ihRight =>
    exact (push_connective_eq_ok_iff (Tag.operator?_known _)).2 ⟨_, _, ihLeft, ihRight, rfl⟩
  | @group content expression _ ih =>
    refine push_group_eq_ok_iff.2 ⟨content, ih, ?_⟩
    cases content with
    | expression => rfl
    | key | value | group | unfit | foreign => cases expression

theorem Built.same_self {t : Operand} (built : t.Built) : t.same t = true := by
  induction built with
  | key made =>
    obtain ⟨s, rfl⟩ := checkedKey_eq_ok made
    exact beq_self_eq_true s
  | value made =>
    obtain ⟨v, rfl⟩ := checkedValue_eq_ok made
    exact v.same_refl
  | group _ made ih =>
    cases checkedGroup_eq_ok made
    exact ih
  | @expression operator left right t _ _ made sameLeft ihRight =>
    obtain ⟨op, _, rfl⟩ := checkedExpressionOf_eq_ok made
    have sameRight : right.same right = true := by
      cases missing : right.isAbsent with
      | false => exact ihRight missing
      | true =>
        cases isAbsent_iff.1 missing
        simp only [same, Datum.same]
    rw [same, beq_self_eq_true, sameLeft, sameRight]
    rfl

/-- An operand that is equal to a settled filter, if only in a caller's eyes, has no negation in its skeleton. -/
theorem Settled.unnegated_of_same {t u : Operand} (settled : t.Settled) (same : t.same u = true) :
    u.Unnegated := by
  induction settled generalizing u with
  | comparison compares _ =>
    cases u with
    | key | value | group | unfit | foreign => cases same
    | expression tag left right =>
      simp only [Operand.same, Bool.and_eq_true, beq_iff_eq] at same
      exact unnegated_comparison (Tag.operator?_congr same.1.1).symm compares left right
  | connective c _ _ ihLeft ihRight =>
    cases u with
    | key | value | group | unfit | foreign => cases same
    | expression tag left right =>
      simp only [Operand.same, Bool.and_eq_true, beq_iff_eq] at same
      exact (unnegated_connective_iff (Tag.operator?_congr same.1.1).symm).2 ⟨ihLeft same.1.2, ihRight same.2⟩
  | group _ _ ih =>
    cases u with
    | key | value | expression | unfit | foreign => cases same
    | group content => exact unnegated_group_iff.2 (ih same)

end Operand

/-- Negating twice gives back a built filter, in itself and in a caller's eyes, exactly if no negation is in its
boolean skeleton. Negations or not, the sides of the comparisons stay as they are. -/
theorem second_negation_restores_iff {t r : Operand} (built : t.Built) (run : t.negate = .ok r) :
    ∃ r', r.negate = .ok r' ∧ (r' = t ↔ t.Unnegated) ∧ (r'.same t = true ↔ t.Unnegated) ∧
      r.compared = t.compared ∧ r'.compared = t.compared := by
  obtain ⟨r', again, twice⟩ := Operand.negate_negated run
  rw [Operand.negate_eq_push] at run
  -- Without negations the filter is restored, what is restored is equal, and what is equal has no negations.
  have restored (unnegated : t.Unnegated) : r' = t :=
    Except.ok.inj (twice.symm.trans (built.checked.settled run unnegated).push_true)
  have equal (same : r' = t) : r'.same t = true := by
    subst same
    exact built.same_self
  have visible (same : r'.same t = true) : t.Unnegated :=
    (Operand.settled_of_push twice).unnegated_of_same same
  exact ⟨r', again, ⟨fun same => visible (equal same), restored⟩, ⟨visible, fun none => equal (restored none)⟩,
    Operand.compared_of_push run, Operand.compared_of_push twice⟩

/-- Negated twice, the filter `(a = 1 OR b > 1)` comes back, and `NOT (a = 1 OR NOT b > 1)` does not. -/
theorem second_negation_of_negation_and_of_group :
    let compared (op : Operator) (field : String) := Operand.expression (.known op) (.key field)
      (.value (.scalar (.int 1)))
    let either (left right : Operand) := Operand.expression (.known .or) left right
    let denied (x : Operand) := Operand.expression (.known .not) x .absent
    let t := Operand.group (either (compared .eq "a") (compared .gt "b"))
    let u := denied (either (compared .eq "a") (denied (compared .gt "b")))
    (t.Built ∧ t.Unnegated ∧ ∃ r, t.negate = .ok r ∧ r.negate = .ok t) ∧
      u.Built ∧ ¬u.Unnegated ∧ ∃ r r', u.negate = .ok r ∧ r.negate = .ok r' ∧ r' ≠ u ∧ r'.same u = false := by
  intro compared either denied t u
  have compare (op : Operator) {name : String} (visible : isBlankText name = false) : (compared op name).Built :=
    .of_sides op (.field visible) fun _ => .scalar (.int 1)
  have builtT : t.Built := .group (.of_sides .or (compare .eq (by decide)) fun _ => compare .gt (by decide)) rfl
  have builtU : u.Built := .denied (.of_sides .or (compare .eq (by decide)) fun _ =>
    .denied (compare .gt (by decide)))
  have unnegated : t.Unnegated := by decide
  have negated : ¬u.Unnegated := by decide
  obtain ⟨r, run⟩ : ∃ r, t.negate = .ok r := ⟨_, (Operand.negate_eq_push t).trans rfl⟩
  obtain ⟨s, ran⟩ : ∃ r, u.negate = .ok r := ⟨_, (Operand.negate_eq_push u).trans rfl⟩
  obtain ⟨r', again, restored, _⟩ := second_negation_restores_iff builtT run
  obtain ⟨s', anew, differs, seen, _⟩ := second_negation_restores_iff builtU ran
  refine ⟨⟨builtT, unnegated, r, run, ?_⟩, builtU, negated, s, s', ran, anew, ?_, ?_⟩
  · rw [restored.2 unnegated] at again
    exact again
  · exact fun same => negated (differs.1 same)
  · exact Bool.eq_false_iff.2 fun same => negated (seen.1 same)

end FieldFilter
