import FieldFilter.Proofs.Fault

namespace FieldFilter

namespace FilterError

/-- An error about how a filter is put together: a comparison without a value on its right, or an operand where
none of its type can stand. -/
def IsStructural (e : FilterError) : Prop :=
  e.category? = some .malformedExpression ∨ e.category? = some .unexpectedOperandType

theorem isStructural_malformed (tag : Tag) (typeName : String) : (malformed tag typeName).IsStructural :=
  Or.inl rfl

theorem isStructural_notNegatable (typeName : String) : (notNegatable typeName).IsStructural :=
  Or.inr rfl

theorem isStructural_unexpectedOperand (typeName : String) : (unexpectedOperand typeName).IsStructural :=
  Or.inr rfl

end FilterError

namespace Operand

/-- The operands that checked construction yields when it starts from data. The right side of an expression may
be missing. -/
inductive Built : Operand → Prop
  | key {name : Datum} {t : Operand} : checkedKey name = .ok t → Built t
  | value {d : Datum} {t : Operand} : checkedValue d = .ok t → Built t
  | expression {operator : Datum} {left right t : Operand} : Built left →
      (right.isAbsent = false → Built right) → checkedExpressionOf operator left right = .ok t → Built t
  | group {content t : Operand} : Built content → checkedGroup content = .ok t → Built t

theorem isAbsent_iff {t : Operand} : t.isAbsent = true ↔ t = .absent := by
  unfold isAbsent
  split <;> simp_all

theorem checkedKey_eq_ok {name : Datum} {t : Operand} (built : checkedKey name = .ok t) : ∃ s, t = .key s := by
  unfold checkedKey at built
  split at built
  · cases built
  · split at built
    · cases built
    · exact ⟨_, (Except.ok.inj built).symm⟩

theorem checkedValue_eq_ok {d : Datum} {t : Operand} (built : checkedValue d = .ok t) : ∃ v, t = .value v := by
  unfold checkedValue at built
  split at built
  · exact ⟨_, (Except.ok.inj built).symm⟩
  · cases built

theorem checkedExpressionOf_eq_ok {operator : Datum} {left right t : Operand}
    (built : checkedExpressionOf operator left right = .ok t) :
    ∃ op, (left.isNode = true ∧ (right.isAbsent = true ∨ right.isNode = true)) ∧
      t = .expression (.known op) left right := by
  unfold checkedExpressionOf at built
  split at built
  · exact ⟨_, checkedExpression_eq_ok_iff.1 built⟩
  · cases built

theorem checkedGroup_eq_ok {content t : Operand} (built : checkedGroup content = .ok t) :
    t = .group content := by
  unfold checkedGroup at built
  split at built
  · exact (Except.ok.inj built).symm
  · cases built

theorem Built.isNode {t : Operand} (built : t.Built) : t.isNode = true := by
  cases built with
  | key made =>
    obtain ⟨s, rfl⟩ := checkedKey_eq_ok made
    rfl
  | value made =>
    obtain ⟨v, rfl⟩ := checkedValue_eq_ok made
    rfl
  | expression _ _ made =>
    obtain ⟨op, _, rfl⟩ := checkedExpressionOf_eq_ok made
    rfl
  | group _ made =>
    cases checkedGroup_eq_ok made
    rfl

/-- Every operator can be given by its name, so that expressions on what is built are built. -/
theorem Built.of_sides (op : Operator) {left right : Operand} (builtLeft : left.Built)
    (builtRight : right.isAbsent = false → right.Built) :
    (Operand.expression (.known op) left right).Built := by
  have nodes : left.isNode = true ∧ (right.isAbsent = true ∨ right.isNode = true) := by
    refine ⟨builtLeft.isNode, ?_⟩
    cases missing : right.isAbsent with
    | true => exact Or.inl rfl
    | false => exact Or.inr (builtRight missing).isNode
  have named : operatorOf? (.scalar (.text op.name)) = some op := op.ofName?_name
  have made : checkedExpressionOf (.scalar (.text op.name)) left right =
      .ok (.expression (.known op) left right) := by
    rw [checkedExpressionOf, named]
    exact checkedExpression_eq_ok_iff.2 ⟨nodes, rfl⟩
  exact .expression builtLeft builtRight made

theorem Built.field {name : String} (visible : isBlankText name = false) : (Operand.key name).Built :=
  .key (show checkedKey (.scalar (.text name)) = .ok (.key name) by simp [checkedKey, fieldText, visible])

theorem Built.scalar (s : Scalar) : (Operand.value (.scalar s)).Built :=
  .value (rfl : checkedValue (.scalar s) = _)

theorem Built.denied {t : Operand} (built : t.Built) : (Operand.expression (.known .not) t .absent).Built :=
  .of_sides .not built fun present => by cases present

/-- The shapes of what is built, where a missing side counts as an operand. Expressions are told apart by what
their operator does, and comparisons have nodes on their sides. -/
inductive Shaped : Operand → Prop
  | absent : Shaped .absent
  | key (name : String) : Shaped (.key name)
  | value (v : Value) : Shaped (.value v)
  | group {content : Operand} : Shaped content → Shaped (.group content)
  | negation {tag : Tag} {left : Operand} (right : Operand) :
      tag.operator? = some .not → Shaped left → Shaped (.expression tag left right)
  | connective {tag : Tag} {left right : Operand} (c : Connective) :
      tag.operator? = some c.operator → Shaped left → Shaped right → Shaped (.expression tag left right)
  | comparison {tag : Tag} {op : Operator} {left right : Operand} :
      tag.operator? = some op → op.isLogical = false →
      left.isNode = true ∧ (right.isAbsent = true ∨ right.isNode = true) →
      Shaped left → Shaped (.expression tag left right)

theorem Built.shaped {t : Operand} (built : t.Built) : t.Shaped := by
  induction built with
  | key made =>
    obtain ⟨s, rfl⟩ := checkedKey_eq_ok made
    exact .key s
  | value made =>
    obtain ⟨v, rfl⟩ := checkedValue_eq_ok made
    exact .value v
  | group _ made ih =>
    cases checkedGroup_eq_ok made
    exact .group ih
  | @expression operator left right t _ _ made shapedLeft ihRight =>
    obtain ⟨op, nodes, rfl⟩ := checkedExpressionOf_eq_ok made
    have known : (Tag.known op).operator? = some op := Tag.operator?_known op
    rcases op.kinds with rfl | ⟨c, rfl⟩ | compares
    · exact .negation right known shapedLeft
    · have shapedRight : right.Shaped := by
        cases missing : right.isAbsent with
        | false => exact ihRight missing
        | true =>
          cases isAbsent_iff.1 missing
          exact .absent
      exact .connective c known shapedLeft shapedRight
    · exact .comparison known compares nodes shapedLeft

/-- A value that is a list without items. -/
def isEmptyList : Operand → Bool
  | .value (.list l) => l.items.isEmpty
  | _ => false

mutual

/-- The filters that can be written, of those that are built. A negation can be if its operand can be negated. The
left side of a comparison may be anything that can be written, and anything at all if the list on the right is
empty. -/
def writable : Operand → Bool
  | .key _ => true
  | .value _ => true
  | .group content => content.writable
  | .expression tag left right =>
    match tag.operator? with
    | some .and | some .or => !right.isAbsent && (left.writable && right.writable)
    | some .not => left.deniable
    | some op => right.isValue && (op.isMembership && right.isEmptyList || left.writable)
    | none => false
  | .unfit _ | .foreign _ => false

/-- The filters that can be negated, with a negation that can be written. Fields and values have no
negation. -/
def deniable : Operand → Bool
  | .group content => content.deniable
  | .expression tag left right =>
    match tag.operator? with
    | some .and | some .or => !right.isAbsent && (left.deniable && right.deniable)
    | some .not => left.deniable
    | some op => right.isValue && (op.isMembership && right.isEmptyList || left.writable)
    | none => false
  | _ => false

end

/-- What has a property that a missing operand lacks is not missing. -/
theorem isAbsent_eq_false_of {p : Operand → Bool} (lacking : p .absent = false) {t : Operand}
    (fits : p t = true) : t.isAbsent = false := by
  refine Bool.eq_false_iff.2 fun missing => ?_
  rw [isAbsent_iff.1 missing, lacking] at fits
  cases fits

section Equations

variable {tag : Tag} {left right : Operand}

theorem writable_connective_iff {c : Connective} (known : tag.operator? = some c.operator) :
    (Operand.expression tag left right).writable = true ↔ left.writable = true ∧ right.writable = true := by
  have present (fits : right.writable = true) := isAbsent_eq_false_of (p := writable) rfl fits
  cases c <;> simp only [Connective.operator] at known <;> rw [writable, known] <;> simp_all

theorem writable_negation (known : tag.operator? = some .not) :
    (Operand.expression tag left right).writable = left.deniable := by
  rw [writable, known]

theorem writable_comparison_iff {op : Operator} (known : tag.operator? = some op)
    (compares : op.isLogical = false) :
    (Operand.expression tag left right).writable = true ↔
      right.isValue = true ∧ (op.isMembership = true ∧ right.isEmptyList = true ∨ left.writable = true) := by
  rw [writable, known]
  cases op <;> simp_all [Operator.isLogical]

theorem deniable_connective_iff {c : Connective} (known : tag.operator? = some c.operator) :
    (Operand.expression tag left right).deniable = true ↔ left.deniable = true ∧ right.deniable = true := by
  have present (fits : right.deniable = true) := isAbsent_eq_false_of (p := deniable) rfl fits
  cases c <;> simp only [Connective.operator] at known <;> rw [deniable, known] <;> simp_all

theorem deniable_negation (known : tag.operator? = some .not) :
    (Operand.expression tag left right).deniable = left.deniable := by
  rw [deniable, known]

/-- Comparisons that can be written can be negated, and no others. -/
theorem deniable_comparison {op : Operator} (known : tag.operator? = some op)
    (compares : op.isLogical = false) :
    (Operand.expression tag left right).deniable = (Operand.expression tag left right).writable := by
  rw [deniable, writable, known]
  cases op <;> simp_all [Operator.isLogical]

end Equations

theorem isEmptyMembership_eq {tag : Tag} {op : Operator} (known : tag.operator? = some op) (right : Operand) :
    isEmptyMembership tag right = (op.isMembership && right.isEmptyList) := by
  unfold isEmptyMembership isEmptyList
  rw [known, Option.any_some]
  split <;> simp

theorem comparisonFault_eq_none_iff {op : Operator} {tag : Tag} {right : Operand}
    {written : Option FilterError} (known : tag.operator? = some op) :
    comparisonFault tag right written = none ↔
      right.isValue = true ∧ (op.isMembership = true ∧ right.isEmptyList = true ∨ written = none) := by
  rw [comparisonFault, isEmptyMembership_eq known]
  cases right.isValue <;> cases op.isMembership <;> cases right.isEmptyList <;> simp

/-- The fault of writing is absent exactly on the first half of the grammar, and the faults of negating and of
writing the result on the second. -/
theorem Shaped.faultless_iff {t : Operand} (shaped : t.Shaped) (store : Store) :
    (t.fault store = none ↔ t.writable = true) ∧
      ∀ kept, (∃ r, t.push kept = .ok r) ∧ t.faultPushed store kept = none ↔ t.deniable = true := by
  induction shaped with
  | absent | key | value => simp [fault, writable, push, deniable]
  | @group content _ ih =>
    refine ⟨ih.1, fun kept => ?_⟩
    rw [faultPushed, deniable, ← ih.2 kept, push_group]
    cases content.push kept <;> simp [Except.map]
  | @negation tag left right known _ ih =>
    refine ⟨?_, fun kept => ?_⟩
    · rw [fault, known, writable_negation known, ← ih.2 false]
      cases left.push false <;> simp
    · rw [push_negation kept left right known, faultPushed_negation store kept left right known,
        deniable_negation known]
      exact ih.2 !kept
  | @connective tag left right c known _ _ ihLeft ihRight =>
    refine ⟨?_, fun kept => ?_⟩
    · rw [fault_connective store left right known, writable_connective_iff known, Option.or_eq_none_iff,
        ihLeft.1, ihRight.1]
    · rw [faultPushed_connective store kept left right known, deniable_connective_iff known,
        Option.or_eq_none_iff, ← ihLeft.2 kept, ← ihRight.2 kept, push_connective kept left right known]
      cases left.push kept <;> cases right.push kept <;> simp [Except.bind, Except.map]
  | @comparison tag op left right known compares nodes _ ih =>
    refine ⟨?_, fun kept => ?_⟩
    · rw [fault_comparison store left right known compares, comparisonFault_eq_none_iff known,
        writable_comparison_iff known compares, ih.1]
    · have pushed : ∃ r, (Operand.expression tag left right).push kept = .ok r :=
        ⟨_, (push_comparison_eq_ok_iff known compares).2 ⟨nodes, rfl⟩⟩
      rw [faultPushed_comparison store kept left right known compares, deniable_comparison known compares,
        comparisonFault_eq_none_iff (Tag.operator?_known _), Operator.isMembership_signed,
        writable_comparison_iff known compares, ih.1]
      exact and_iff_right pushed

/-- A leaf of what is built refuses a negation only because it is a field, a value, or missing. -/
theorem Shaped.refusal_of_leaf {t leaf : Operand} (shaped : t.Shaped) (member : leaf ∈ t.leaves)
    {e : FilterError} (refused : leaf.refusal = some e) : e.IsStructural := by
  induction shaped with
  | absent | key | value =>
    cases List.mem_singleton.1 member
    cases refused
    exact FilterError.isStructural_notNegatable _
  | group _ ih => exact ih member
  | negation right known _ ih =>
    rw [leaves, known] at member
    exact ih member
  | connective c known _ _ ihLeft ihRight =>
    rw [leaves_connective known, List.mem_append] at member
    exact member.elim ihLeft ihRight
  | comparison known compares nodes _ _ =>
    rw [leaves_comparison known compares, List.mem_singleton] at member
    subst member
    simp [refusal, known, sideIssues_eq_nil_iff.2 nodes] at refused

theorem Shaped.structural_of_push {t : Operand} (shaped : t.Shaped) {kept : Bool} {e : FilterError}
    (failed : t.push kept = .error e) : e.IsStructural := by
  obtain ⟨leaf, member, refused⟩ := List.exists_of_findSome?_eq_some (push_eq_error_iff.1 failed)
  exact shaped.refusal_of_leaf member refused

theorem isStructural_of_comparisonFault {tag : Tag} {right : Operand} {written : Option FilterError}
    {e : FilterError} (structural : written = some e → e.IsStructural)
    (faulty : comparisonFault tag right written = some e) : e.IsStructural := by
  rcases comparisonFault_eq_some_iff.1 faulty with ⟨_, rfl⟩ | ⟨_, _, inLeft⟩
  · exact FilterError.isStructural_malformed _ _
  · exact structural inLeft

/-- What is built has structural faults only, also below a negation. -/
theorem Shaped.structural {t : Operand} (shaped : t.Shaped) (store : Store) {e : FilterError} :
    (t.fault store = some e → e.IsStructural) ∧
      ∀ kept, t.faultPushed store kept = some e → e.IsStructural := by
  induction shaped with
  | absent =>
    refine ⟨fun faulty => ?_, fun kept faulty => ?_⟩
    · cases faulty
      exact FilterError.isStructural_unexpectedOperand _
    · cases faulty
  | key | value => simp [fault, faultPushed]
  | group _ ih => exact ih
  | @negation tag left right known shapedLeft ih =>
    refine ⟨fun faulty => ?_, fun kept faulty => ?_⟩
    · rw [fault, known] at faulty
      cases run : left.push false with
      | error e' =>
        simp only [run, Option.some.injEq] at faulty
        subst faulty
        exact shapedLeft.structural_of_push run
      | ok r =>
        simp only [run] at faulty
        exact ih.2 false faulty
    · rw [faultPushed_negation store kept left right known] at faulty
      exact ih.2 (!kept) faulty
  | @connective tag left right c known _ _ ihLeft ihRight =>
    refine ⟨fun faulty => ?_, fun kept faulty => ?_⟩
    · rw [fault_connective store left right known, Option.or_eq_some_iff] at faulty
      exact faulty.elim ihLeft.1 fun later => ihRight.1 later.2
    · rw [faultPushed_connective store kept left right known, Option.or_eq_some_iff] at faulty
      exact faulty.elim (ihLeft.2 kept) fun later => ihRight.2 kept later.2
  | @comparison tag op left right known compares _ _ ih =>
    refine ⟨fun faulty => ?_, fun kept faulty => ?_⟩
    · rw [fault_comparison store left right known compares] at faulty
      exact isStructural_of_comparisonFault ih.1 faulty
    · rw [faultPushed_comparison store kept left right known compares] at faulty
      exact isStructural_of_comparisonFault ih.1 faulty

end Operand

/-- Of the filters that are built, the writable ones are written in the dialect of every store, and no others.
What is wrong with the others is how they are put together. -/
theorem built_filter_written_iff_writable (store : Store) (given : Option String) (settings : Settings)
    {t : Operand} (built : t.Built) (b : TextBuffer) :
    ((∃ after, t.write (store.dialect given) settings b = .ok () after) ↔ t.writable = true) ∧
      ∀ e after, t.write (store.dialect given) settings b = .error e after →
        e.category? = some .malformedExpression ∨ e.category? = some .unexpectedOperandType := by
  have ends := t.write_ends store given settings
  refine ⟨(ends.ok_iff b).trans (built.shaped.faultless_iff store).1, fun e after run => ?_⟩
  exact (built.shaped.structural store).1 ((ends.error_iff b e).1 ⟨after, run⟩)

/-- The filter `NOT (a = AND b IN [])`, whose first comparison has no value, is refused. Below a membership in an
empty list the same comparison does no harm, and a bare field may stand beside it where nothing is negated. -/
theorem built_filters_written_or_refused :
    let field (name : String) := Operand.key name
    let bare := Operand.expression (.known .eq) (field "a") .absent
    let empty (left : Operand) := Operand.expression (.known .isIn) left (.value (.list ⟨[], by decide⟩))
    let both (left right : Operand) := Operand.expression (.known .and) left right
    let refused := Operand.expression (.known .not) (both bare (empty (field "b"))) .absent
    let written := both (.group (empty bare)) (field "b")
    (refused.Built ∧ ¬∃ after, refused.write (Store.pgVector.dialect none) default .empty = .ok () after) ∧
      written.Built ∧ ∃ after, written.write (Store.pgVector.dialect none) default .empty = .ok () after := by
  intro field bare empty both refused written
  have builtField (name : String) (visible : isBlankText name = false) : (field name).Built :=
    .key (show Operand.checkedKey (.scalar (.text name)) = .ok (.key name) by
      simp [Operand.checkedKey, fieldText, visible])
  have builtList : (Operand.value (.list ⟨[], by decide⟩)).Built :=
    .value (rfl : Operand.checkedValue (.list []) = _)
  have alone (present : Operand.absent.isAbsent = false) : Operand.absent.Built := by cases present
  have builtBare : bare.Built := .of_sides .eq (builtField "a" (by decide)) alone
  have builtEmpty {left : Operand} (built : left.Built) : (empty left).Built :=
    .of_sides .isIn built fun _ => builtList
  have builtRefused : refused.Built :=
    .of_sides .not (.of_sides .and builtBare fun _ => builtEmpty (builtField "b" (by decide))) alone
  have builtWritten : written.Built :=
    .of_sides .and (.group (builtEmpty builtBare) rfl) fun _ => builtField "b" (by decide)
  have refuses := (built_filter_written_iff_writable .pgVector none default builtRefused .empty).1
  have writes := (built_filter_written_iff_writable .pgVector none default builtWritten .empty).1
  exact ⟨⟨builtRefused, fun run => absurd (refuses.1 run) (by decide)⟩, builtWritten, writes.2 (by decide)⟩

end FieldFilter
