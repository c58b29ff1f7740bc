import FieldFilter.Proofs.Precedence

namespace FieldFilter

/-- A truth value where it may be unknown whether a comparison holds, as with a field that is missing. -/
inductive Kleene
  | no
  | unknown
  | yes
deriving DecidableEq

namespace Kleene

/-- What is unknown does not matter beside a side that does not hold. -/
def and : Kleene → Kleene → Kleene
  | .no, _ => .no
  | .unknown, .no => .no
  | .unknown, _ => .unknown
  | .yes, b => b

/-- What is unknown does not matter beside a side that holds. -/
def or : Kleene → Kleene → Kleene
  | .yes, _ => .yes
  | .unknown, .yes => .yes
  | .unknown, _ => .unknown
  | .no, b => b

def not : Kleene → Kleene
  | .no => .yes
  | .unknown => .unknown
  | .yes => .no

instance : Inhabited Kleene := ⟨.unknown⟩

instance : Logic Kleene where
  conj := and
  disj := or
  neg := not
  neg_neg a := by cases a <;> rfl
  neg_conj a b := by cases a <;> cases b <;> rfl

/-- A truth value that is known. -/
def ofBool : Bool → Kleene
  | false => .no
  | true => .yes

theorem ofBool_not (b : Bool) : ofBool (!b) = (ofBool b).not := by
  cases b <;> rfl

end Kleene

/-- The interpretation in which nothing is known of one field, and all else is settled by another
interpretation. -/
def Interpretation.missing (I : Interpretation Bool) (absent : String) : Interpretation Kleene where
  holds op field v := if field = absent then .unknown else .ofBool (I.holds op field v)
  complementary {op other} field v compares paired := by
    split
    · rfl
    · rw [I.complementary field v compares paired]
      exact Kleene.ofBool_not _

/-- A well-formed filter can be negated, and its negation has the opposite truth value, also where truth
values may be unknown. -/
theorem negation_has_opposite_truth {t : Operand} (wellFormed : t.WellFormed) :
    ∃ r, t.negate = .ok r ∧ (∀ I : Interpretation Bool, r.truth I = !t.truth I) ∧
      ∀ I : Interpretation Kleene, r.truth I = (t.truth I).not := by
  obtain ⟨r, run, _, settled⟩ := wellFormed.negate_exists (α := Bool)
  obtain ⟨r', run', _, partly⟩ := wellFormed.negate_exists (α := Kleene)
  have same : r' = r := Except.ok.inj (run'.symm.trans run)
  subst same
  exact ⟨r', run, settled, partly⟩

/-- The filter `NOT ((a = 1 OR NOT b > 1))` is negated to `(a = 1 OR b <= 1)`. Where the field `a` is missing,
the truth of both is known only if `b <= 1` holds. -/
theorem negation_of_nested_negation_has_opposite_truth :
    let compared (op : Operator) (field : String) := Operand.expression (.known op) (.key field)
      (.value (.scalar (.int 1)))
    let denied (x : Operand) := Operand.expression (.known .not) x .absent
    let t := denied (.group (.expression (.known .or) (compared .eq "a") (denied (compared .gt "b"))))
    let r := Operand.group (.expression (.known .or) (compared .eq "a") (compared .lte "b"))
    let small := (Interpretation.ofField "b").missing "a"
    let large := (Interpretation.ofField "c").missing "a"
    t.WellFormed ∧ t.negate = .ok r ∧ (r.truth small = .yes ∧ r.truth small = (t.truth small).not) ∧
      r.truth large = .unknown ∧ r.truth large = (t.truth large).not := by
  intro compared denied t r small large
  have compare (op : Operator) (field : String) (compares : op.isLogical = false) :
      (compared op field).WellFormed := .comparison field (.scalar (.int 1)) (Tag.operator?_known op) compares
  have deny {x : Operand} (inner : x.WellFormed) : (denied x).WellFormed :=
    .negation .absent (Tag.operator?_known .not) inner
  have wellFormed : t.WellFormed := deny (.group (.connective .or (Tag.operator?_known .or)
    (compare .eq "a" rfl) (deny (compare .gt "b" rfl))))
  obtain ⟨r', run, _, partly⟩ := negation_has_opposite_truth wellFormed
  have negated : t.negate = .ok r := by cbv
  have same : r' = r := Except.ok.inj (run.symm.trans negated)
  subst same
  exact ⟨wellFormed, negated, ⟨by decide, partly small⟩, by decide, partly large⟩

end FieldFilter
