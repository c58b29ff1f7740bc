import FieldFilter.Proofs.Fault

namespace FieldFilter

namespace FilterError

/-- An error of one of the classes that refine the class of errors in filters. -/
def IsOwn (e : FilterError) : Prop :=
  e.category?.bind ErrorClass.parent? = some .filterExpression

/-- Only what checked construction finds, and what is wrong with a name that is no text, is reported in another
class. -/
theorem not_isOwn_iff {e : FilterError} :
    ¬e.IsOwn ↔ (∃ found, e = .invalid found) ∨ ∃ fault, e = .unfitName fault := by
  cases e <;> simp [IsOwn, category?, report?, Report.of, ErrorClass.parent?]

theorem isOwn_malformed (tag : Tag) (rightType : String) : (malformed tag rightType).IsOwn := rfl

theorem isOwn_noSymbol (tag : Tag) (dialect : String) (supported : List String) :
    (noSymbol tag dialect supported).IsOwn := rfl

theorem isOwn_unexpectedOperand (typeName : String) : (unexpectedOperand typeName).IsOwn := rfl

end FilterError

namespace Operand

/-- While a filter is written in a dialect, an operand comes to be written. Everything before it has been written,
since what fails ends the writing. A negation leads to the result of carrying it out. -/
inductive Reaches (d : Dialect) (settings : Settings) : Operand → Operand → Prop
  | here (t : Operand) : Reaches d settings t t
  | group {content x : Operand} : Reaches d settings content x → Reaches d settings (.group content) x
  | result {tag : Tag} {left right r x : Operand} : tag.operator? = some .not → left.negate = .ok r →
      Reaches d settings r x → Reaches d settings (.expression tag left right) x
  | left {tag : Tag} {left right x : Operand} (c : Connective) : tag.operator? = some c.operator →
      Reaches d settings left x → Reaches d settings (.expression tag left right) x
  | right {tag : Tag} {left right x : Operand} {s : String} (c : Connective) :
      tag.operator? = some c.operator → d.render settings left = .ok s → Reaches d settings right x →
      Reaches d settings (.expression tag left right) x
  | compared {tag : Tag} {left right x : Operand} : tag.operator?.any Operator.isLogical = false →
      right.isValue = true → isEmptyMembership tag right = false → Reaches d settings left x →
      Reaches d settings (.expression tag left right) x
  | value {tag : Tag} {op : Operator} {left right : Operand} {s : String} : tag.operator? = some op →
      op.isLogical = false → right.isValue = true → isEmptyMembership tag right = false →
      d.render settings left = .ok s → Reaches d settings (.expression tag left right) right

theorem fault_of_isValue {t : Operand} (valued : t.isValue = true) (store : Store) : t.fault store = none := by
  cases t with
  | value => rfl
  | unfit u =>
    cases u with
    | value => rfl
    | key => cases valued
  | key | expression | group | foreign => cases valued

/-- Where an expression compares, an error that is not the filter's own comes from its left side, and only if that
is written at all. -/
theorem fault_comparing_eq_some_iff {tag : Tag} {left right : Operand} {store : Store} {e : FilterError}
    (compares : tag.operator?.any Operator.isLogical = false) (other : ¬e.IsOwn) :
    (Operand.expression tag left right).fault store = some e ↔
      right.isValue = true ∧ isEmptyMembership tag right = false ∧ left.fault store = some e := by
  have complete : e ≠ .malformed tag right.typeName := by
    rintro rfl
    exact other (FilterError.isOwn_malformed _ _)
  have known : e ≠ .noSymbol tag store.name supportedNames := by
    rintro rfl
    exact other (FilterError.isOwn_noSymbol _ _ _)
  cases operator : tag.operator? with
  | none =>
    rw [fault_unknown store left right operator, comparisonFault_eq_some_iff]
    cases left.fault store <;> simp [complete, known.symm]
  | some op =>
    rw [operator, Option.any_some] at compares
    rw [fault_comparison store left right operator compares, comparisonFault_eq_some_iff]
    simp [complete]

variable {store : Store} {given : Option String} {settings : Settings}

/-- What is at fault where it is reached ends the writing with an error that is not the filter's own. -/
theorem Reaches.fault_eq {t x : Operand} (reached : Reaches (store.dialect given) settings t x) {e : FilterError}
    (other : ¬e.IsOwn) (faulty : x.fault store = some e) : t.fault store = some e := by
  induction reached with
  | here => exact faulty
  | group _ ih => exact ih faulty
  | result known run _ ih =>
    rw [fault_negation known, run]
    exact ih faulty
  | left c known _ ih => rw [fault_connective _ _ _ known, ih faulty, Option.some_or]
  | right c known run _ ih =>
    have passed := (render_ok_iff_fault store given settings _).1 ⟨_, run⟩
    rw [fault_connective _ _ _ known, passed, Option.none_or, ih faulty]
  | compared compares valued filled _ ih =>
    exact (fault_comparing_eq_some_iff compares other).2 ⟨valued, filled, ih faulty⟩
  | value _ _ valued =>
    rw [fault_of_isValue valued store] at faulty
    cases faulty

/-- A node from which errors come that are not the filter's own: a negation that fails, or a field whose name is no
text. -/
inductive Trips (e : FilterError) : Operand → Prop
  | negation {tag : Tag} {left : Operand} (right : Operand) : tag.operator? = some .not →
      left.negate = .error e → Trips e (.expression tag left right)
  | key (name : Datum) (noText : name.ownText? = none) : Trips e (.unfit (.key name noText))

theorem exists_reached_of_compared {tag : Tag} {left right : Operand} {e : FilterError}
    (compares : tag.operator?.any Operator.isLogical = false) (other : ¬e.IsOwn)
    (below : left.fault store = some e →
      ∃ x, Reaches (store.dialect given) settings left x ∧ x.fault store = some e ∧ x.Trips e)
    (faulty : (Operand.expression tag left right).fault store = some e) :
    ∃ x, Reaches (store.dialect given) settings (.expression tag left right) x ∧ x.fault store = some e ∧
      x.Trips e := by
  obtain ⟨valued, filled, inLeft⟩ := (fault_comparing_eq_some_iff compares other).1 faulty
  obtain ⟨x, reached, origin⟩ := below inLeft
  exact ⟨x, .compared compares valued filled reached, origin⟩

/-- An error that is not the filter's own comes from a node that is reached and trips. -/
theorem exists_reached_of_fault (t : Operand) {e : FilterError} (other : ¬e.IsOwn)
    (faulty : t.fault store = some e) :
    ∃ x, Reaches (store.dialect given) settings t x ∧ x.fault store = some e ∧ x.Trips e := by
  induction size : t.size using Nat.strongRecOn generalizing t with
  | ind n ih =>
    subst size
    have smaller (x : Operand) (less : x.size < t.size) faulty := ih x.size less x faulty rfl
    induction t using inductionByOperator with
    | key | value => cases faulty
    | foreign x =>
      cases faulty
      exact absurd (FilterError.isOwn_unexpectedOperand _) other
    | unfit u =>
      cases u with
      | key name noText => exact ⟨_, .here _, faulty, .key name noText⟩
      | value => cases faulty
    | group content =>
      obtain ⟨x, reached, origin⟩ := smaller content (by simp [size]) faulty
      exact ⟨x, .group reached, origin⟩
    | unknown tag left right unknown =>
      have compares : tag.operator?.any Operator.isLogical = false := by rw [unknown, Option.any_none]
      exact exists_reached_of_compared compares other (smaller left (by simp only [size]; omega)) faulty
    | negation tag left right known =>
      cases run : left.negate with
      | error e' =>
        have carried := faulty
        rw [fault_negation known, run] at carried
        cases carried
        exact ⟨_, .here _, faulty, .negation right known run⟩
      | ok r =>
        have shrunk := size_le_of_negate run
        rw [fault_negation known, run] at faulty
        obtain ⟨x, reached, origin⟩ := smaller r (by simp only [size]; omega) faulty
        exact ⟨x, .result known run reached, origin⟩
    | connective tag c left right known =>
      rw [fault_connective _ left right known, Option.or_eq_some_iff] at faulty
      obtain inLeft | ⟨passed, inRight⟩ := faulty
      · obtain ⟨x, reached, origin⟩ := smaller left (by simp only [size]; omega) inLeft
        exact ⟨x, .left c known reached, origin⟩
      · obtain ⟨x, reached, origin⟩ := smaller right (by simp only [size]; omega) inRight
        obtain ⟨s, run⟩ := (render_ok_iff_fault store given settings left).2 passed
        exact ⟨x, .right c known run reached, origin⟩
    | comparison tag op left right known comparing =>
      have compares : tag.operator?.any Operator.isLogical = false := by rw [known, Option.any_some, comparing]
      exact exists_reached_of_compared compares other (smaller left (by simp only [size]; omega)) faulty

end Operand

end FieldFilter
