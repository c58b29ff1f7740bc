import FieldFilter.Proofs.WellFormed

namespace FieldFilter

/-- A logic in which negation undoes itself and exchanges conjunction and disjunction. -/
class Logic (α : Type) where
  conj : α → α → α
  disj : α → α → α
  neg : α → α
  neg_neg : ∀ a, neg (neg a) = a
  neg_conj : ∀ a b, neg (conj a b) = disj (neg a) (neg b)

namespace Logic

theorem neg_disj {α : Type} [Logic α] (a b : α) : neg (disj a b) = conj (neg a) (neg b) := by
  rw [← neg_neg (conj (neg a) (neg b)), neg_conj, neg_neg, neg_neg]

def join {α : Type} [Logic α] : Connective → α → α → α
  | .and => conj
  | .or => disj

theorem neg_join {α : Type} [Logic α] (c : Connective) (a b : α) :
    neg (join c a b) = join c.opposite (neg a) (neg b) := by
  cases c
  · exact neg_conj a b
  · exact neg_disj a b

instance : Logic Bool where
  conj := and
  disj := or
  neg := not
  neg_neg := Bool.not_not
  neg_conj := Bool.not_and

end Logic

/-- What comparisons mean: every field compared with every value, such that operators that are
opposites of each other have opposite truth. -/
structure Interpretation (α : Type) [Logic α] where
  holds : Operator → String → Value → α
  complementary : ∀ {op other : Operator} (field : String) (v : Value), op.isLogical = false →
    op.opposite? = some other → holds other field v = Logic.neg (holds op field v)

namespace Operand

variable {α : Type} [Logic α] [Inhabited α]

/-- The truth of a filter. Groups count for nothing; what is no filter has no truth of its own. -/
def truth (I : Interpretation α) : Operand → α
  | .group content => content.truth I
  | .expression tag left right =>
    match tag.operator? with
    | some .and => Logic.conj (left.truth I) (right.truth I)
    | some .or => Logic.disj (left.truth I) (right.truth I)
    | some .not => Logic.neg (left.truth I)
    | some op =>
      match left, right with
      | .key field, .value v => I.holds op field v
      | _, _ => default
    | none => default
  | _ => default

theorem truth_group (I : Interpretation α) (content : Operand) :
    (Operand.group content).truth I = content.truth I := rfl

theorem truth_connective (I : Interpretation α) {tag : Tag} {c : Connective}
    (known : tag.operator? = some c.operator) (left right : Operand) :
    (Operand.expression tag left right).truth I = Logic.join c (left.truth I) (right.truth I) := by
  cases c <;> simp only [Connective.operator] at known <;> rw [truth, known] <;> rfl

theorem truth_negation (I : Interpretation α) {tag : Tag} (known : tag.operator? = some .not)
    (left right : Operand) : (Operand.expression tag left right).truth I = Logic.neg (left.truth I) := by
  rw [truth, known]

theorem truth_comparison (I : Interpretation α) {tag : Tag} {op : Operator}
    (known : tag.operator? = some op) (compares : op.isLogical = false) (field : String) (v : Value) :
    (Operand.expression tag (.key field) (.value v)).truth I = I.holds op field v := by
  rw [truth, known]
  cases op <;> simp_all [Operator.isLogical]

theorem truth_ungrouped (I : Interpretation α) (t : Operand) : t.ungrouped.truth I = t.truth I := by
  cases t <;> rfl

/-- The dual of a plain filter holds exactly when the filter does not. -/
theorem Plain.truth_dual {t : Operand} (plain : t.Plain) (I : Interpretation α) :
    t.dual.truth I = Logic.neg (t.truth I) := by
  induction plain with
  | comparison field v known compares =>
    obtain ⟨other, paired, compares'⟩ := Operator.opposite?_comparison compares
    rw [dual_comparison known compares paired, truth_comparison I known compares,
      truth_comparison I (Tag.operator?_known other) compares', I.complementary field v compares paired]
  | connective c known _ _ left right =>
    rw [dual_connective known, truth_connective I known, truth_connective I (Tag.operator?_known _),
      left, right, Logic.neg_join]
  | @group content _ negated => exact (truth_ungrouped I content.dual).trans negated

/-- A well-formed filter can be negated, whatever negations it holds. The result is plain and true
exactly when the filter is not. -/
theorem WellFormed.negate_exists {t : Operand} (wellFormed : t.WellFormed) :
    ∃ r, t.negate = .ok r ∧ r.Plain ∧ ∀ I : Interpretation α, r.truth I = Logic.neg (t.truth I) := by
  induction wellFormed with
  | comparison field v known compares =>
    have plain := Plain.comparison field v known compares
    exact ⟨_, plain.negate_eq, plain.dual, plain.truth_dual⟩
  | @connective tag left right c known _ _ negatedLeft negatedRight =>
    obtain ⟨left', runLeft, plainLeft, truthLeft⟩ := negatedLeft
    obtain ⟨right', runRight, plainRight, truthRight⟩ := negatedRight
    refine ⟨.expression (.known c.opposite.operator) left' right', ?_,
      .connective c.opposite (Tag.operator?_known _) plainLeft plainRight, fun I => ?_⟩
    · rw [negate_connective known c.swapped, runLeft, runRight]
      rfl
    · rw [truth_connective I known, truth_connective I (Tag.operator?_known _), truthLeft, truthRight,
        Logic.neg_join]
  | @negation tag left right known _ negated =>
    -- What is negated a second time is plain, so one pass over it is all that is left to do.
    obtain ⟨once, run, plain, truth⟩ := negated
    refine ⟨once.dual, ?_, plain.dual, fun I => ?_⟩
    · rw [negate_not known, run]
      exact plain.negate_eq
    · rw [plain.truth_dual I, truth I, truth_negation I known]
  | @group content _ negated =>
    obtain ⟨inner, run, plain, truth⟩ := negated
    refine ⟨.group inner.ungrouped, ?_, .group plain.ungrouped, fun I => ?_⟩
    · rw [negate_group, run]
      rfl
    · rw [truth_group, truth_group, truth_ungrouped, truth I]

end Operand

end FieldFilter
