import FieldFilter.Proofs.PushDown
import FieldFilter.Proofs.Writing

namespace FieldFilter

/-- The class of the error, among the classes of this library. What checked construction finds is reported in a
class of its own, which is none of them. -/
def FilterError.category? (e : FilterError) : Option ErrorClass :=
  e.report?.map Report.category

namespace FilterError

theorem category?_malformed (tag : Tag) (rightType : String) :
    (malformed tag rightType).category? = some .malformedExpression := rfl

theorem category?_noOpposite (tag : Tag) : (noOpposite tag).category? = some .unsupportedOperator := rfl

theorem category?_noSymbol (tag : Tag) (dialect : String) (supported : List String) :
    (noSymbol tag dialect supported).category? = some .unsupportedOperator := rfl

theorem category?_notNegatable (typeName : String) :
    (notNegatable typeName).category? = some .unexpectedOperandType := rfl

theorem category?_unexpectedOperand (typeName : String) :
    (unexpectedOperand typeName).category? = some .unexpectedOperandType := rfl

end FilterError

namespace Writer

/-- The action appends some text to whatever buffer it is given, and then fails. -/
def Stops (w : Writer) (e : FilterError) : Prop :=
  ∃ s, ∀ b, w b = .error e (b.append s)

/-- The action fails with the fault, or it succeeds if there is none. Neither depends on the buffer. -/
def Ends (w : Writer) : Option FilterError → Prop
  | none => ∃ s, w.Writes s
  | some e => w.Stops e

theorem Writes.ends {w : Writer} {s : String} (writes : w.Writes s) : w.Ends none :=
  ⟨s, writes⟩

theorem stops_throw (e : FilterError) : Stops (throw e) e :=
  ⟨"", fun b => congrArg (EStateM.Result.error e) b.append_empty.symm⟩

theorem ends_appendOr (text : Except FilterError String) :
    (appendOr text).Ends (match text with | .ok _ => none | .error e => some e) := by
  cases text with
  | ok s => exact ⟨s, writes_append s⟩
  | error e => exact stops_throw e

theorem Stops.seq {w : Writer} {e : FilterError} (stops : w.Stops e) (w' : Writer) : Stops (do w; w') e := by
  obtain ⟨s, run⟩ := stops
  refine ⟨s, fun b => ?_⟩
  simp only [bind, EStateM.bind, run b]

theorem Writes.stops_later {w w' : Writer} {s : String} {e : FilterError} (writes : w.Writes s)
    (stops : w'.Stops e) : Stops (do w; w') e := by
  obtain ⟨s', run⟩ := stops
  refine ⟨s ++ s', fun b => ?_⟩
  simp only [bind, EStateM.bind, writes b, run, TextBuffer.append_append]

/-- Of two actions in a row, the first to fail decides. -/
theorem Ends.seq {w w' : Writer} {fault fault' : Option FilterError} (first : w.Ends fault)
    (second : w'.Ends fault') : Ends (do w; w') (fault.or fault') := by
  cases fault with
  | some e => exact Stops.seq first w'
  | none =>
    obtain ⟨s, writes⟩ := first
    cases fault' with
    | none =>
      obtain ⟨s', writes'⟩ := second
      exact ⟨s ++ s', writes.seq writes'⟩
    | some e => exact writes.stops_later second

theorem Ends.ok_iff {w : Writer} {fault : Option FilterError} (ends : w.Ends fault) (b : TextBuffer) :
    (∃ after, w b = .ok () after) ↔ fault = none := by
  cases fault with
  | none =>
    obtain ⟨s, writes⟩ := ends
    exact ⟨fun _ => rfl, fun _ => ⟨b.append s, writes b⟩⟩
  | some e =>
    obtain ⟨s, run⟩ := ends
    simp [run b]

theorem Ends.error_iff {w : Writer} {fault : Option FilterError} (ends : w.Ends fault) (b : TextBuffer)
    (e : FilterError) : (∃ after, w b = .error e after) ↔ fault = some e := by
  cases fault with
  | none =>
    obtain ⟨s, writes⟩ := ends
    simp [writes b]
  | some e' =>
    obtain ⟨s, run⟩ := ends
    simp [run b]

end Writer

theorem Dialect.render_ok_iff {d : Dialect} {settings : Settings} {t : Operand} :
    (∃ s, d.render settings t = .ok s) ↔ ∃ after, t.write d settings .empty = .ok () after := by
  rw [render]
  cases t.write d settings .empty <;> simp

theorem Dialect.render_error_iff {d : Dialect} {settings : Settings} {t : Operand} {e : FilterError} :
    d.render settings t = .error e ↔ ∃ after, t.write d settings .empty = .error e after := by
  rw [render]
  cases t.write d settings .empty <;> simp

/-- In every store an expression is its left side, its symbol and its right side, with texts around the left
side if it is cast. -/
theorem Store.arrange_cases (store : Store) (given : Option String) (tag : Tag) (left right : Operand) :
    (store.dialect given).arrange tag left right = [.left, .symbol, .right] ∨
      ∃ opening closing, (store.dialect given).arrange tag left right =
        [.text opening, .left, .text closing, .symbol, .right] := by
  cases store with
  | generic | milvus | mariaDb => exact Or.inl rfl
  | pgVector =>
    have arranged : ((Store.pgVector).dialect given).arrange tag left right =
      Dialect.PgVector.arrange tag left right := rfl
    rw [arranged, Dialect.PgVector.arrange]
    cases Dialect.PgVector.cast? tag left right with
    | none => exact Or.inl rfl
    | some type => exact Or.inr ⟨_, _, rfl⟩

theorem Store.ends_assemble (store : Store) (given : Option String) (tag : Tag) (left right : Operand)
    {symbol writeLeft writeRight : Writer} {faultSymbol faultLeft faultRight : Option FilterError}
    (endsSymbol : symbol.Ends faultSymbol) (endsLeft : writeLeft.Ends faultLeft)
    (endsRight : writeRight.Ends faultRight) :
    (Writer.assemble symbol writeLeft writeRight ((store.dialect given).arrange tag left right)).Ends
      (faultLeft.or (faultSymbol.or faultRight)) := by
  have tail : Writer.Ends (do symbol; writeRight; pure ()) (faultSymbol.or faultRight) := by
    have ends := endsSymbol.seq (endsRight.seq Writer.writes_pure.ends)
    rwa [Option.or_none] at ends
  rcases store.arrange_cases given tag left right with plain | ⟨opening, closing, cast⟩
  · rw [plain]
    exact endsLeft.seq tail
  · rw [cast]
    exact (Writer.writes_append opening).ends.seq (endsLeft.seq ((Writer.writes_append closing).ends.seq tail))

/-- The fault for which a node that was put together unchecked cannot be written in the dialect of a store. Any
contents can be written, but not every name that is no text. -/
def Unfit.fault? (store : Store) : Unfit → Option FilterError
  | .key name _ => (store.nameFault? name).map .unfitName
  | .value .. => none

theorem Store.ends_unfitText (store : Store) (given : Option String) (settings : Settings) (u : Unfit) :
    (Writer.appendOr ((store.dialect given).unfitText settings u)).Ends (u.fault? store) := by
  cases u with
  | value => exact (Writer.writes_append _).ends
  | key name =>
    cases store with
    | generic => exact (Writer.writes_append _).ends
    | pgVector | milvus => exact Writer.stops_throw _
    | mariaDb =>
      have named : (mariaDb.dialect given).misnamedText settings name =
        Dialect.MariaDb.misnamedText given settings name := rfl
      rw [Dialect.unfitText, named, Dialect.MariaDb.misnamedText, Unfit.fault?, nameFault?]
      cases name.lookUpFault? with
      | none => exact (Writer.writes_append _).ends
      | some fault => exact Writer.stops_throw _

namespace Operand

/-- The operators that stores have symbols for, in the order of their names. -/
def supportedNames : List String :=
  (Dialect.operatorsByName.filter (· ≠ .not)).map Operator.name

/-- The fault of a comparison, given that of what is written if it is complete. The right side comes first, and
an empty membership is settled without a look at the left one. -/
def comparisonFault (tag : Tag) (right : Operand) (written : Option FilterError) : Option FilterError :=
  if !right.isValue then some (.malformed tag right.typeName)
  else if isEmptyMembership tag right then none
  else written

theorem comparisonFault_eq_some_iff {tag : Tag} {right : Operand} {written : Option FilterError}
    {e : FilterError} :
    comparisonFault tag right written = some e ↔
      right.isValue = false ∧ e = .malformed tag right.typeName ∨
        right.isValue = true ∧ isEmptyMembership tag right = false ∧ written = some e := by
  unfold comparisonFault
  cases right.isValue <;> cases isEmptyMembership tag right <;> simp [eq_comm]

mutual

/-- The fault for which a filter cannot be written in the dialect of a store, if there is one. It is the first
that is met from left to right, except that a negation is carried out as a whole before any of it is
written. -/
def fault (store : Store) : Operand → Option FilterError
  | .key _ => none
  | .value _ => none
  | .unfit u => u.fault? store
  | .group content => content.fault store
  | .expression tag left right =>
    match tag.operator? with
    | some .and | some .or => (left.fault store).or (right.fault store)
    | some .not =>
      match left.push false with
      | .error e => some e
      | .ok _ => left.faultPushed store false
    | some _ => comparisonFault tag right (left.fault store)
    | none => comparisonFault tag right ((left.fault store).or (some (.noSymbol tag store.name supportedNames)))
  | .foreign x => some (.unexpectedOperand x.typeName)

/-- The fault for which the result of a push cannot be written, found on what is pushed. -/
def faultPushed (store : Store) (kept : Bool) : Operand → Option FilterError
  | .group content => content.faultPushed store kept
  | .expression tag left right =>
    match tag.operator? with
    | some .and | some .or => (left.faultPushed store kept).or (right.faultPushed store kept)
    | some .not => left.faultPushed store !kept
    | some op => comparisonFault (.known (op.signed kept)) right (left.fault store)
    | none => none
  | _ => none

end

section Equations

variable {tag : Tag} (store : Store) (kept : Bool) (left right : Operand)

theorem fault_connective {c : Connective} (known : tag.operator? = some c.operator) :
    (Operand.expression tag left right).fault store = (left.fault store).or (right.fault store) := by
  cases c <;> simp only [Connective.operator] at known <;> rw [fault, known]

theorem fault_comparison {op : Operator} (known : tag.operator? = some op) (compares : op.isLogical = false) :
    (Operand.expression tag left right).fault store = comparisonFault tag right (left.fault store) := by
  rw [fault, known]
  cases op <;> simp_all [Operator.isLogical]

theorem fault_unknown (unknown : tag.operator? = none) :
    (Operand.expression tag left right).fault store =
      comparisonFault tag right ((left.fault store).or (some (.noSymbol tag store.name supportedNames))) := by
  rw [fault, unknown]

theorem faultPushed_connective {c : Connective} (known : tag.operator? = some c.operator) :
    (Operand.expression tag left right).faultPushed store kept =
      (left.faultPushed store kept).or (right.faultPushed store kept) := by
  cases c <;> simp only [Connective.operator] at known <;> rw [faultPushed, known]

theorem faultPushed_negation (known : tag.operator? = some .not) :
    (Operand.expression tag left right).faultPushed store kept = left.faultPushed store !kept := by
  rw [faultPushed, known]

theorem faultPushed_comparison {op : Operator} (known : tag.operator? = some op)
    (compares : op.isLogical = false) :
    (Operand.expression tag left right).faultPushed store kept =
      comparisonFault (.known (op.signed kept)) right (left.fault store) := by
  rw [faultPushed, known]
  cases op <;> simp_all [Operator.isLogical]

end Equations

theorem fault_ungrouped (store : Store) (t : Operand) : t.ungrouped.fault store = t.fault store := by
  cases t <;> rfl

/-- Faults of the result of a push are found on what is pushed. -/
theorem fault_of_push {t r : Operand} {kept : Bool} (store : Store) (run : t.push kept = .ok r) :
    r.fault store = t.faultPushed store kept := by
  induction t using inductionByOperator generalizing kept r with
  | key | value | unfit | foreign => cases run
  | group content ih =>
    obtain ⟨inner, pushed, rfl⟩ := push_group_eq_ok_iff.1 run
    rw [fault, fault_ungrouped, faultPushed, ih pushed]
  | unknown tag left right unknown =>
    rw [push_unknown kept left right unknown] at run
    cases run
  | negation tag left right known ih =>
    rw [push_negation kept left right known] at run
    rw [faultPushed_negation store kept left right known, ih run]
  | connective tag c left right known ihLeft ihRight =>
    obtain ⟨left', right', pushedLeft, pushedRight, rfl⟩ := (push_connective_eq_ok_iff known).1 run
    rw [fault_connective store left' right' (Tag.operator?_known _),
      faultPushed_connective store kept left right known, ihLeft pushedLeft, ihRight pushedRight]
  | comparison tag op left right known compares _ =>
    obtain ⟨_, rfl⟩ := (push_comparison_eq_ok_iff known compares).1 run
    rw [fault_comparison store left right (Tag.operator?_known _) (Operator.isLogical_signed compares kept),
      faultPushed_comparison store kept left right known compares]

/-- The fault of a negation is that of carrying it out, or else that of its result. -/
theorem fault_negation {tag : Tag} (known : tag.operator? = some .not) (store : Store)
    (left right : Operand) :
    (Operand.expression tag left right).fault store =
      match left.negate with
      | .error e => some e
      | .ok r => r.fault store := by
  rw [fault, known, negate_eq_push]
  cases run : left.push false with
  | error e => rfl
  | ok r => exact (fault_of_push store run).symm

end Operand

theorem Store.supportedNames_dialect (store : Store) (given : Option String) :
    (store.dialect given).supportedNames = Operand.supportedNames := by
  cases store <;> rfl

theorem Store.symbolText_unknown (store : Store) (given : Option String) {tag : Tag}
    (unknown : tag.operator? = none) :
    (store.dialect given).symbolText tag = .error (.noSymbol tag store.name Operand.supportedNames) := by
  rw [Dialect.symbolText, unknown, Option.bind_none, store.supportedNames_dialect, store.name_dialect]

namespace Operand

section Comparing

variable {d : Dialect} {settings : Settings} {tag : Tag} {left right : Operand}

theorem lacksValue_of_comparing (compares : tag.operator?.any Operator.isLogical = false) :
    lacksValue tag right = !right.isValue := by
  rw [lacksValue, compares]
  rfl

theorem operator?_ne_not (compares : tag.operator?.any Operator.isLogical = false) :
    tag.operator? ≠ some .not := by
  intro known
  rw [known] at compares
  cases compares

theorem write_malformed (compares : tag.operator?.any Operator.isLogical = false)
    (bare : right.isValue = false) :
    (Operand.expression tag left right).write d settings = throw (.malformed tag right.typeName) := by
  have lacks : lacksValue tag right = true := by rw [lacksValue_of_comparing compares, bare, Bool.not_false]
  rw [write, if_pos lacks]

theorem write_emptyMembership (compares : tag.operator?.any Operator.isLogical = false)
    (valued : right.isValue = true) (empty : isEmptyMembership tag right = true) :
    (Operand.expression tag left right).write d settings = Writer.append (d.emptyMembershipText tag) := by
  have complete : lacksValue tag right = false := by
    rw [lacksValue_of_comparing compares, valued, Bool.not_true]
  rw [write, complete, if_neg Bool.false_ne_true, if_neg (operator?_ne_not compares), if_pos empty]

theorem write_compared (compares : tag.operator?.any Operator.isLogical = false)
    (valued : right.isValue = true) (filled : isEmptyMembership tag right = false) :
    (Operand.expression tag left right).write d settings =
      Writer.assemble (Writer.appendOr (d.symbolText tag)) (left.write d settings) (right.write d settings)
        (d.arrange tag left right) := by
  have complete : lacksValue tag right = false := by
    rw [lacksValue_of_comparing compares, valued, Bool.not_true]
  rw [write, complete, if_neg Bool.false_ne_true, if_neg (operator?_ne_not compares), filled,
    if_neg Bool.false_ne_true]

theorem write_negation_fails (known : tag.operator? = some .not) {e : FilterError}
    (failed : left.negate = .error e) : (Operand.expression tag left right).write d settings = throw e := by
  have complete : lacksValue tag right = false := by
    rw [lacksValue, known]
    rfl
  rw [write, complete, known, if_neg Bool.false_ne_true, if_pos rfl]
  split
  · rename_i r run
    rw [failed] at run
    cases run
  · rename_i e' run
    rw [failed] at run
    cases run
    rfl

end Comparing

variable (store : Store) (given : Option String) (settings : Settings)

/-- A value is written whatever it holds. -/
theorem write_value_ends {t : Operand} (valued : t.isValue = true) :
    (t.write (store.dialect given) settings).Ends none := by
  cases t with
  | value v =>
    rw [write]
    exact (Writer.writes_append _).ends
  | unfit u =>
    cases u with
    | value content noValue =>
      rw [write]
      exact store.ends_unfitText given settings (.value content noValue)
    | key => cases valued
  | key | expression | group | foreign => cases valued

/-- What is written for an expression that compares ends with its fault, if that holds of its left side and of
its symbol. -/
theorem write_comparing_ends {tag : Tag} {left right : Operand} {faultLeft faultSymbol : Option FilterError}
    (compares : tag.operator?.any Operator.isLogical = false)
    (endsLeft : (left.write (store.dialect given) settings).Ends faultLeft)
    (endsSymbol : (Writer.appendOr ((store.dialect given).symbolText tag)).Ends faultSymbol) :
    ((Operand.expression tag left right).write (store.dialect given) settings).Ends
      (comparisonFault tag right (faultLeft.or faultSymbol)) := by
  unfold comparisonFault
  cases valued : right.isValue with
  | false =>
    rw [write_malformed compares valued]
    exact Writer.stops_throw _
  | true =>
    cases empty : isEmptyMembership tag right with
    | true =>
      rw [write_emptyMembership compares valued empty]
      exact (Writer.writes_append _).ends
    | false =>
      have endsRight := write_value_ends store given settings valued
      have sides := store.ends_assemble given tag left right endsSymbol endsLeft endsRight
      rw [Option.or_none] at sides
      rw [write_compared compares valued empty]
      exact sides

/-- What is written for a filter in the dialect of a store ends with its fault. -/
theorem write_ends (t : Operand) : (t.write (store.dialect given) settings).Ends (t.fault store) := by
  induction size : t.size using Nat.strongRecOn generalizing t with
  | ind n ih =>
    subst size
    have smaller (x : Operand) (less : x.size < t.size) := ih x.size less x rfl
    have spells := store.isInfix given
    induction t using inductionByOperator with
    | key name =>
      rw [write]
      exact (spells.writes_field settings name).ends
    | value v =>
      rw [write]
      exact (Writer.writes_append _).ends
    | unfit u =>
      rw [write]
      exact store.ends_unfitText given settings u
    | foreign x =>
      rw [write]
      exact Writer.stops_throw _
    | group content =>
      have bracketed := (Writer.writes_append (store.dialect given).groupOpen).ends.seq
        ((smaller content (by simp [size])).seq (Writer.writes_append (store.dialect given).groupClose).ends)
      rw [Option.or_none] at bracketed
      rw [write_group]
      exact bracketed
    | unknown tag left right unknown =>
      have compares : tag.operator?.any Operator.isLogical = false := by rw [unknown, Option.any_none]
      have symbol := Writer.ends_appendOr ((store.dialect given).symbolText tag)
      rw [store.symbolText_unknown given unknown] at symbol
      rw [fault_unknown _ left right unknown]
      refine write_comparing_ends store given settings compares (smaller left (by simp only [size]; omega)) ?_
      rw [store.symbolText_unknown given unknown]
      exact symbol
    | negation tag left right known =>
      rw [fault_negation known]
      cases run : left.negate with
      | error e =>
        rw [write_negation_fails known run]
        exact Writer.stops_throw e
      | ok r =>
        have shrunk := size_le_of_negate run
        rw [write_negation known run right]
        exact smaller r (by simp only [size]; omega)
    | connective tag c left right known =>
      have sides := store.ends_assemble given tag left right (spells.writes_symbol known c.operator_ne_not).ends
        (smaller left (by simp only [size]; omega)) (smaller right (by simp only [size]; omega))
      rw [spells.arrange_connective c left right known] at sides
      rw [write_connective spells known, fault_connective _ left right known]
      exact sides
    | comparison tag op left right known comparing =>
      have compares : tag.operator?.any Operator.isLogical = false := by rw [known, Option.any_some, comparing]
      have ends := @write_comparing_ends store given settings tag left right _ _ compares
        (smaller left (by simp only [size]; omega)) (spells.writes_symbol known (Operator.ne_not comparing)).ends
      rw [Option.or_none] at ends
      rw [fault_comparison _ left right known comparing]
      exact ends

theorem render_ok_iff_fault (t : Operand) :
    (∃ s, (store.dialect given).render settings t = .ok s) ↔ t.fault store = none :=
  Dialect.render_ok_iff.trans ((t.write_ends store given settings).ok_iff .empty)

theorem render_error_iff_fault (t : Operand) (e : FilterError) :
    (store.dialect given).render settings t = .error e ↔ t.fault store = some e :=
  Dialect.render_error_iff.trans ((t.write_ends store given settings).error_iff .empty e)

end Operand

end FieldFilter
