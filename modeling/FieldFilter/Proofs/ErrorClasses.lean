import FieldFilter.Proofs.Reached

namespace FieldFilter

namespace Operand

/-- The sides that checked construction asks of an expression: nodes, of which the right one may be missing. -/
def SidesAreNodes (left right : Operand) : Prop :=
  left.isNode = true ∧ (right.isAbsent = true ∨ right.isNode = true)

/-- A comparison, with nodes on its sides or not. -/
inductive Compares (sides : Operand → Operand → Prop) : Operand → Prop
  | mk {tag : Tag} {op : Operator} {left right : Operand} : tag.operator? = some op → sides left right →
      Compares sides (.expression tag left right)

/-- Of the leaves that cannot be negated, the first is a comparison, and what stands on one side of it is no
node. -/
def TripsOnSide (t : Operand) : Prop :=
  ∃ before leaf after, t.leaves = before ++ leaf :: after ∧ (∀ x ∈ before, Compares SidesAreNodes x) ∧
    Compares (fun left right => ¬SidesAreNodes left right) leaf

theorem compares_iff {sides : Operand → Operand → Prop} {tag : Tag} {left right : Operand} :
    Compares sides (.expression tag left right) ↔ tag.operator?.isNone = false ∧ sides left right := by
  constructor
  · rintro ⟨known, holds⟩
    exact ⟨by rw [known, Option.isNone_some], holds⟩
  · rintro ⟨named, holds⟩
    obtain ⟨op, known⟩ := Option.isSome_iff_exists.1 (Option.isNone_eq_false_iff.1 named)
    exact .mk known holds

theorem refusal_eq_none_iff {leaf : Operand} : leaf.refusal = none ↔ Compares SidesAreNodes leaf := by
  cases leaf with
  | expression tag left right =>
    rw [compares_iff, SidesAreNodes, ← sideIssues_eq_nil_iff, refusal]
    cases tag.operator?.isNone <;> simp
  | key | value | group | unfit | foreign =>
    constructor
    · intro passed
      cases passed
    · intro comparison
      cases comparison

theorem refusal_eq_invalid_iff {leaf : Operand} :
    (∃ found, leaf.refusal = some (.invalid found)) ↔
      Compares (fun left right => ¬SidesAreNodes left right) leaf := by
  cases leaf with
  | expression tag left right =>
    rw [compares_iff, SidesAreNodes, ← sideIssues_eq_nil_iff, refusal]
    cases tag.operator?.isNone <;> cases sideIssues left right <;> simp
  | key | value | group | unfit | foreign =>
    constructor
    · rintro ⟨found, refused⟩
      cases refused
    · intro comparison
      cases comparison

/-- Negation fails with what checked construction finds exactly if it trips on the side of a comparison. -/
theorem negate_invalid_iff (t : Operand) : (∃ found, t.negate = .error (.invalid found)) ↔ t.TripsOnSide := by
  simp only [negate_eq_push, push_eq_error_iff, List.findSome?_eq_some_iff]
  constructor
  · rintro ⟨found, before, leaf, after, split, refused, passed⟩
    exact ⟨before, leaf, after, split, fun x member => refusal_eq_none_iff.1 (passed x member),
      refusal_eq_invalid_iff.1 ⟨found, refused⟩⟩
  · rintro ⟨before, leaf, after, split, passed, misfit⟩
    obtain ⟨found, refused⟩ := refusal_eq_invalid_iff.2 misfit
    exact ⟨found, before, leaf, after, split, refused, fun x member => refusal_eq_none_iff.2 (passed x member)⟩

theorem refusal_ne_unfitName (leaf : Operand) (fault : NameFault) : leaf.refusal ≠ some (.unfitName fault) := by
  cases leaf with
  | expression tag left right =>
    rw [refusal]
    cases tag.operator?.isNone <;> cases sideIssues left right <;> simp
  | key | value | group | unfit | foreign => simp [refusal]

/-- Of the errors that are not the filter's own, negation raises only what checked construction finds. -/
theorem invalid_of_negate {t : Operand} {e : FilterError} (failed : t.negate = .error e) (other : ¬e.IsOwn) :
    ∃ found, e = .invalid found := by
  rw [negate_eq_push, push_eq_error_iff] at failed
  obtain ⟨leaf, _, refused⟩ := List.exists_of_findSome?_eq_some failed
  rcases FilterError.not_isOwn_iff.1 other with invalid | ⟨fault, rfl⟩
  · exact invalid
  · exact absurd refused (leaf.refusal_ne_unfitName fault)

/-- While a filter is written in a dialect, the negation of an operand is carried out. -/
def Negates (d : Dialect) (settings : Settings) (t x : Operand) : Prop :=
  ∃ tag right, Tag.operator? tag = some .not ∧ Reaches d settings t (.expression tag x right)

end Operand

/-- Negating and writing raise errors of the filter's own classes only, exactly on the operands for which no
negation that is carried out trips on the side of a comparison and, where they are written, no field is reached with
a name that is no text and that the store does not refer to. -/
theorem raises_own_errors_iff (store : Store) (given : Option String) (settings : Settings) (t : Operand) :
    ((∀ e, t.negate = .error e → e.IsOwn) ↔ ¬t.TripsOnSide) ∧
      ((∀ e, (store.dialect given).render settings t = .error e → e.IsOwn) ↔
        (∀ x, Operand.Negates (store.dialect given) settings t x → ¬x.TripsOnSide) ∧
          ∀ name noText, Operand.Reaches (store.dialect given) settings t (.unfit (.key name noText)) →
            store.nameFault? name = none) := by
  have notOwn (found : ValidationError) : ¬(FilterError.invalid found).IsOwn :=
    FilterError.not_isOwn_iff.2 (Or.inl ⟨found, rfl⟩)
  simp only [← Operand.negate_invalid_iff, Operand.render_error_iff_fault]
  refine ⟨⟨?_, ?_⟩, fun own => ⟨?_, ?_⟩, ?_⟩
  · rintro own ⟨found, failed⟩
    exact notOwn found (own _ failed)
  · refine fun valid e failed => Classical.byContradiction fun other => ?_
    obtain ⟨found, rfl⟩ := Operand.invalid_of_negate failed other
    exact valid ⟨found, failed⟩
  · rintro x ⟨tag, right, known, reached⟩ ⟨found, failed⟩
    have faulty : (Operand.expression tag x right).fault store = some (.invalid found) := by
      rw [Operand.fault_negation known, failed]
    exact notOwn found (own _ (reached.fault_eq (notOwn found) faulty))
  · intro name noText reached
    refine Option.eq_none_iff_forall_ne_some.2 fun fault misnamed => ?_
    have other : ¬(FilterError.unfitName fault).IsOwn := FilterError.not_isOwn_iff.2 (Or.inr ⟨fault, rfl⟩)
    have faulty : (Operand.unfit (.key name noText)).fault store = some (.unfitName fault) := by
      rw [Operand.fault, Unfit.fault?, misnamed, Option.map_some]
    exact other (own _ (reached.fault_eq other faulty))
  · rintro ⟨valid, named⟩ e faulty
    refine Classical.byContradiction fun other => ?_
    obtain ⟨x, reached, fault, trips⟩ := Operand.exists_reached_of_fault t other faulty
    cases trips with
    | @negation tag left right known failed =>
      obtain ⟨found, rfl⟩ := Operand.invalid_of_negate failed other
      exact valid left ⟨tag, right, known, reached⟩ ⟨found, failed⟩
    | key name noText =>
      rw [Operand.fault, Unfit.fault?, named name noText reached] at fault
      cases fault

/-- A comparison whose left side is a text and no field raises an error of the filter's own where it is written,
but another one where it is negated, since it is built anew. -/
theorem negated_comparison_of_text_raises_other_error :
    let t := Operand.expression (.plain "EQ") (.foreign (.scalar (.text "a"))) (.value (.scalar (.int 1)))
    let missing (kind : NodeKind) := Issue.notNode "left" kind
    let found := FilterError.invalid ⟨[missing .key, missing .value, missing .expression, missing .group]⟩
    (Store.generic.dialect none).render default t = .error (.unexpectedOperand "str") ∧
      t.negate = .error found ∧
      (Store.generic.dialect none).render default (.expression (.known .not) t .absent) = .error found ∧
      (FilterError.unexpectedOperand "str").IsOwn ∧ ¬found.IsOwn := by
  intro t missing found
  refine ⟨?_, ?_, ?_, rfl, FilterError.not_isOwn_iff.2 (Or.inl ⟨_, rfl⟩)⟩
  · exact (Operand.render_error_iff_fault .generic none default t _).2 (by decide)
  · rw [Operand.negate_eq_push]
    rfl
  · exact (Operand.render_error_iff_fault .generic none default _ _).2 (by decide)

end FieldFilter
