import FieldFilter.Proofs.NodeEquality
import FieldFilter.Proofs.PgVectorText

namespace FieldFilter

/-- Two texts that are followed by others: the wholes are the same exactly if the proposition holds and what follows
is the same. -/
def TextsAgree (agree : Prop) (s s' : String) : Prop :=
  ∀ r r', s ++ r = s' ++ r' ↔ agree ∧ r = r'

namespace TextsAgree

variable {p q : Prop} {s s' u u' : String}

theorem refl (s : String) : TextsAgree True s s := fun _ _ => by rw [String.append_right_inj, true_and]

theorem of_iff (agree : TextsAgree p s s') (same : p ↔ q) : TextsAgree q s s' := fun r r' => by
  rw [← same]
  exact agree r r'

theorem append (first : TextsAgree p s s') (second : TextsAgree q u u') :
    TextsAgree (p ∧ q) (s ++ u) (s' ++ u') := fun r r' => by
  rw [String.append_assoc, String.append_assoc, first, second, and_assoc]

theorem eq_iff (agree : TextsAgree p s s') : s = s' ↔ p := by
  have whole := agree "" ""
  rwa [String.append_empty, String.append_empty, and_iff_left rfl] at whole

end TextsAgree

namespace Binary64

variable {x y : Binary64}

def isNegativeZero (x : Binary64) : Bool :=
  x.isZero && x.isNegative

theorem text_of_isZero (zero : x.isZero = true) : x.text = if x.isNegative then "-0.0" else "0.0" := by
  obtain ⟨exponent, _⟩ := isZero_iff.1 zero
  have number : x.isNan = false := by simp [isNan, exponent]
  have finite : x.isInfinite = false := by simp [isInfinite, exponent]
  have magnitude : x.magnitudeText = ['0', '.', '0'] := by
    rw [magnitudeText, finite, zero]
    rfl
  rw [← String.toList_inj, text_eq number, magnitude]
  cases x.isNegative <;> rfl

/-- Equal doubles are written alike, unless they are the two zeros. -/
theorem texts_agree (same : x.sameNumber y = true) :
    TextsAgree (x.isNegativeZero = y.isNegativeZero) x.text y.text := by
  simp only [sameNumber, Bool.or_eq_true, Bool.and_eq_true, beq_iff_eq] at same
  rcases same with ⟨word, _⟩ | ⟨zero, zero'⟩
  · obtain ⟨bits, serial⟩ := x
    obtain ⟨bits', serial'⟩ := y
    cases word
    exact (TextsAgree.refl _).of_iff (iff_of_true trivial rfl)
  · rw [text_of_isZero zero, text_of_isZero zero', isNegativeZero, isNegativeZero, zero, zero', Bool.true_and,
      Bool.true_and]
    cases x.isNegative <;> cases y.isNegative
    · exact (TextsAgree.refl _).of_iff (iff_of_true trivial rfl)
    · intro r r'
      simp [← String.toList_inj]
    · intro r r'
      simp [← String.toList_inj]
    · exact (TextsAgree.refl _).of_iff (iff_of_true trivial rfl)

end Binary64

def Scalar.isNegativeZero : Scalar → Bool
  | .float x => x.isNegativeZero
  | _ => false

namespace Operand

/-- Every field and every value in the operand could have been checked. -/
def isFit : Operand → Bool
  | .unfit _ => false
  | .expression _ left right => left.isFit && right.isFit
  | .group content => content.isFit
  | .key _ | .value _ | .foreign _ => true

theorem isFit_expression_iff {tag : Tag} {left right : Operand} :
    (Operand.expression tag left right).isFit = true ↔ left.isFit = true ∧ right.isFit = true := by
  rw [isFit, Bool.and_eq_true]

theorem isFit_ungrouped (t : Operand) : t.ungrouped.isFit = t.isFit := by
  cases t <;> rfl

theorem Built.isFit {t : Operand} (built : t.Built) : t.isFit = true := by
  induction built with
  | key made =>
    obtain ⟨s, rfl⟩ := checkedKey_eq_ok made
    rfl
  | value made =>
    obtain ⟨v, rfl⟩ := checkedValue_eq_ok made
    rfl
  | @expression operator left right t _ _ made fitLeft fitRight =>
    obtain ⟨op, _, rfl⟩ := checkedExpressionOf_eq_ok made
    refine isFit_expression_iff.2 ⟨fitLeft, ?_⟩
    cases missing : right.isAbsent with
    | false => exact fitRight missing
    | true =>
      cases isAbsent_iff.1 missing
      rfl
  | group _ made fit =>
    cases checkedGroup_eq_ok made
    exact fit

theorem isFit_of_push {t r : Operand} {kept : Bool} (run : t.push kept = .ok r) (fit : t.isFit = true) :
    r.isFit = true := by
  induction t using inductionByOperator generalizing kept r with
  | key | value | unfit | foreign => cases run
  | group content ih =>
    obtain ⟨inner, pushed, rfl⟩ := push_group_eq_ok_iff.1 run
    rw [isFit, isFit_ungrouped]
    exact ih pushed fit
  | unknown tag left right unknown =>
    rw [push_unknown kept left right unknown] at run
    cases run
  | negation tag left right known ih =>
    rw [push_negation kept left right known] at run
    exact ih run (isFit_expression_iff.1 fit).1
  | connective tag c left right known ihLeft ihRight =>
    obtain ⟨left', right', pushedLeft, pushedRight, rfl⟩ := (push_connective_eq_ok_iff known).1 run
    obtain ⟨fitLeft, fitRight⟩ := isFit_expression_iff.1 fit
    exact isFit_expression_iff.2 ⟨ihLeft pushedLeft fitLeft, ihRight pushedRight fitRight⟩
  | comparison tag op left right known compares _ =>
    obtain ⟨_, rfl⟩ := (push_comparison_eq_ok_iff known compares).1 run
    exact fit

end Operand

namespace Store

variable (store : Store) (given : Option String)

theorem scalarText_float (x : Binary64) : (store.dialect given).scalarText (.float x) = x.text := by
  cases store <;> rfl

theorem scalarTexts_agree {s t : Scalar} (same : s.same t = true) :
    TextsAgree (s.isNegativeZero = t.isNegativeZero) ((store.dialect given).scalarText s)
      ((store.dialect given).scalarText t) := by
  cases s with
  | text | bool | int =>
    cases t <;> first
      | cases same
      | (obtain rfl := beq_iff_eq.1 same
         exact (TextsAgree.refl _).of_iff (iff_of_true trivial rfl))
  | float x =>
    cases t with
    | text | bool | int => cases same
    | float y =>
      rw [store.scalarText_float, store.scalarText_float]
      exact Binary64.texts_agree same

theorem itemTexts_agree (separator : String) {l m : List Scalar}
    (items : List.Forall₂ (fun s t => s.same t = true) l m) :
    TextsAgree (l.map Scalar.isNegativeZero = m.map Scalar.isNegativeZero)
      (String.intercalate separator (l.map (store.dialect given).scalarText))
      (String.intercalate separator (m.map (store.dialect given).scalarText)) := by
  induction items with
  | nil => exact (TextsAgree.refl _).of_iff (iff_of_true trivial rfl)
  | cons same rest ih =>
    have head := store.scalarTexts_agree given same
    cases rest with
    | nil => exact head.of_iff (by simp)
    | cons =>
      simp only [List.map_cons, String.intercalate_cons_cons] at ih ⊢
      exact ((head.append (TextsAgree.refl separator)).append ih).of_iff (by simp)

theorem valueTexts_agree {v w : Value} (same : v.same w = true) :
    TextsAgree (v.scalars.map Scalar.isNegativeZero = w.scalars.map Scalar.isNegativeZero)
      ((store.dialect given).valueText v) ((store.dialect given).valueText w) := by
  obtain ⟨lists, items⟩ := Value.same_iff.1 same
  cases v with
  | scalar s =>
    cases w with
    | scalar t => exact (store.scalarTexts_agree given same).of_iff (by simp [Value.scalars])
    | list m => cases lists
  | list l =>
    cases w with
    | scalar t => cases lists
    | list m =>
      have inside := store.itemTexts_agree given (store.dialect given).listSeparator items
      exact (((TextsAgree.refl _).append inside).append (TextsAgree.refl _)).of_iff (by simp)

/-- Equal expressions are arranged alike, if the field could have been checked. -/
theorem arrange_eq_of_alike {tag tag' : Tag} {left right left' right' : Operand} (named : tag.name = tag'.name)
    (fit : left.isFit = true) (onLeft : left.Alike left') (onRight : right.Alike right') :
    (store.dialect given).arrange tag left right = (store.dialect given).arrange tag' left' right' := by
  rw [(store.isInfix given).arrange_congr left right (Tag.operator?_congr named)]
  cases store with
  | generic | milvus | mariaDb => rfl
  | pgVector =>
    have cast : Dialect.PgVector.cast? tag' left right = Dialect.PgVector.cast? tag' left' right' := by
      cases onLeft with
      | key name =>
        cases onRight with
        | value same =>
          simp only [Dialect.PgVector.cast?]
          rw [Dialect.PgVector.castFor?_of_kinds (Value.kinds_eq_of_same same)]
        | key | expression | group | unfit | foreign => rfl
      | unfit => cases fit
      | value | expression | group | foreign => rfl
    simp only [dialect, Dialect.pgVector, Dialect.PgVector.arrange, cast]

end Store

namespace Writer

/-- Two actions side by side: both write, and their texts agree exactly if the proposition holds, or both fail with
errors of one class. -/
def Parallel (w w' : Writer) (agree : Prop) : Prop :=
  (∃ s s', w.Writes s ∧ w'.Writes s' ∧ TextsAgree agree s s') ∨
    ∃ e e', w.Stops e ∧ w'.Stops e' ∧ e.category? = e'.category?

variable {w w' v v' : Writer} {p q : Prop} {s s' : String}

theorem Parallel.of_iff (parallel : w.Parallel w' p) (same : p ↔ q) : w.Parallel w' q := by
  rcases parallel with ⟨s, s', writes, writes', agree⟩ | stops
  · exact Or.inl ⟨s, s', writes, writes', agree.of_iff same⟩
  · exact Or.inr stops

theorem parallel_of_writes (writes : w.Writes s) (writes' : w'.Writes s) : w.Parallel w' True :=
  Or.inl ⟨s, s, writes, writes', TextsAgree.refl s⟩

theorem parallel_throw {e e' : FilterError} (same : e.category? = e'.category?) : Parallel (throw e) (throw e') p :=
  Or.inr ⟨e, e', stops_throw e, stops_throw e', same⟩

theorem Parallel.seq (first : w.Parallel w' p) (second : v.Parallel v' q) :
    Parallel (do w; v) (do w'; v') (p ∧ q) := by
  rcases first with ⟨s, s', writes, writes', agree⟩ | ⟨e, e', stops, stops', category⟩
  · rcases second with ⟨u, u', later, later', agree'⟩ | ⟨e, e', stops, stops', category⟩
    · exact Or.inl ⟨_, _, writes.seq later, writes'.seq later', agree.append agree'⟩
    · exact Or.inr ⟨e, e', writes.stops_later stops, writes'.stops_later stops', category⟩
  · exact Or.inr ⟨e, e', stops.seq v, stops'.seq v', category⟩

end Writer

theorem Store.parallel_assemble (store : Store) (given : Option String) (tag : Tag) (left right : Operand)
    {symbol symbol' writeLeft writeLeft' writeRight writeRight' : Writer} {p q agree : Prop}
    (symbols : symbol.Parallel symbol' agree) (lefts : writeLeft.Parallel writeLeft' p)
    (rights : writeRight.Parallel writeRight' q) :
    (Writer.assemble symbol writeLeft writeRight ((store.dialect given).arrange tag left right)).Parallel
      (Writer.assemble symbol' writeLeft' writeRight' ((store.dialect given).arrange tag left right))
      (p ∧ agree ∧ q) := by
  have same (s : String) := Writer.parallel_of_writes (Writer.writes_append s) (Writer.writes_append s)
  have tail := symbols.seq (rights.seq (Writer.parallel_of_writes Writer.writes_pure Writer.writes_pure))
  rcases store.arrange_cases given tag left right with plain | ⟨opening, closing, cast⟩
  · rw [plain]
    exact (lefts.seq tail).of_iff (by simp)
  · rw [cast]
    exact ((same opening).seq (lefts.seq ((same closing).seq tail))).of_iff (by simp)

namespace Operand

/-- The scalars that are written for a filter, from left to right. Next to an empty membership nothing is written,
and neither is the right side of a negation. -/
def writtenScalars : Operand → List Scalar
  | .value v => v.scalars
  | .expression tag left right =>
    if tag.operator? = some .not then left.writtenScalars
    else if isEmptyMembership tag right then []
    else left.writtenScalars ++ right.writtenScalars
  | .group content => content.writtenScalars
  | .key _ | .unfit _ | .foreign _ => []

/-- Which of the scalars that are written are the negative zero. -/
def zeroSigns (t : Operand) : List Bool :=
  t.writtenScalars.map Scalar.isNegativeZero

theorem zeroSigns_group (content : Operand) : (Operand.group content).zeroSigns = content.zeroSigns := rfl

theorem zeroSigns_ungrouped (t : Operand) : t.ungrouped.zeroSigns = t.zeroSigns := by
  cases t <;> rfl

section Expressions

variable {tag : Tag} (left right : Operand)

theorem zeroSigns_negation (known : tag.operator? = some .not) :
    (Operand.expression tag left right).zeroSigns = left.zeroSigns := by
  rw [zeroSigns, writtenScalars, if_pos known, zeroSigns]

theorem zeroSigns_filled (positive : tag.operator? ≠ some .not) (filled : isEmptyMembership tag right = false) :
    (Operand.expression tag left right).zeroSigns = left.zeroSigns ++ right.zeroSigns := by
  rw [zeroSigns, writtenScalars, if_neg positive, filled, if_neg Bool.false_ne_true, List.map_append, zeroSigns,
    zeroSigns]

theorem zeroSigns_empty (positive : tag.operator? ≠ some .not) (empty : isEmptyMembership tag right = true) :
    (Operand.expression tag left right).zeroSigns = [] := by
  rw [zeroSigns, writtenScalars, if_neg positive, if_pos empty, List.map_nil]

theorem isEmptyMembership_connective {c : Connective} (known : tag.operator? = some c.operator) :
    isEmptyMembership tag right = false := by
  rw [isEmptyMembership_eq known]
  cases c <;> rfl

theorem zeroSigns_connective {c : Connective} (known : tag.operator? = some c.operator) :
    (Operand.expression tag left right).zeroSigns = left.zeroSigns ++ right.zeroSigns :=
  zeroSigns_filled left right (fun denied => c.operator_ne_not (Option.some.inj (known.symm.trans denied)))
    (isEmptyMembership_connective right known)

/-- An opposite operator leaves what is written on its sides. -/
theorem zeroSigns_signed {op : Operator} (known : tag.operator? = some op) (compares : op.isLogical = false)
    (kept : Bool) :
    (Operand.expression (.known (op.signed kept)) left right).zeroSigns =
      (Operand.expression tag left right).zeroSigns := by
  have positive : tag.operator? ≠ some .not := fun denied =>
    Operator.ne_not compares (Option.some.inj (known.symm.trans denied))
  have positive' : (Tag.known (op.signed kept)).operator? ≠ some .not := fun denied =>
    Operator.ne_not (Operator.isLogical_signed compares kept) (Option.some.inj denied)
  have member : isEmptyMembership (.known (op.signed kept)) right = isEmptyMembership tag right := by
    rw [isEmptyMembership_eq known, isEmptyMembership_eq (Tag.operator?_known _), Operator.isMembership_signed]
  cases empty : isEmptyMembership tag right with
  | true => rw [zeroSigns_empty left right positive empty, zeroSigns_empty left right positive' (member.trans empty)]
  | false =>
    rw [zeroSigns_filled left right positive empty, zeroSigns_filled left right positive' (member.trans empty)]

end Expressions

/-- Carrying out negations leaves the scalars that are written. -/
theorem zeroSigns_of_push {t r : Operand} {kept : Bool} (run : t.push kept = .ok r) : r.zeroSigns = t.zeroSigns := by
  induction t using inductionByOperator generalizing kept r with
  | key | value | unfit | foreign => cases run
  | group content ih =>
    obtain ⟨inner, pushed, rfl⟩ := push_group_eq_ok_iff.1 run
    rw [zeroSigns_group, zeroSigns_ungrouped, zeroSigns_group, ih pushed]
  | unknown tag left right unknown =>
    rw [push_unknown kept left right unknown] at run
    cases run
  | negation tag left right known ih =>
    rw [push_negation kept left right known] at run
    rw [zeroSigns_negation left right known, ih run]
  | connective tag c left right known ihLeft ihRight =>
    obtain ⟨left', right', pushedLeft, pushedRight, rfl⟩ := (push_connective_eq_ok_iff known).1 run
    rw [zeroSigns_connective left' right' (Tag.operator?_known _), zeroSigns_connective left right known,
      ihLeft pushedLeft, ihRight pushedRight]
  | comparison tag op left right known compares _ =>
    obtain ⟨_, rfl⟩ := (push_comparison_eq_ok_iff known compares).1 run
    exact zeroSigns_signed left right known compares kept

/-- As many scalars are written for one of two equal operands as for the other. -/
theorem Alike.length_zeroSigns {t u : Operand} (alike : t.Alike u) : t.zeroSigns.length = u.zeroSigns.length := by
  induction alike with
  | key | unfit | foreign => rfl
  | value same =>
    have lengths := (Value.same_iff.1 same).2.length_eq
    simpa [zeroSigns, writtenScalars] using lengths
  | group _ ih => exact ih
  | @expression tag tag' left right left' right' named _ onRight ihLeft ihRight =>
    have operators := Tag.operator?_congr named
    by_cases known : tag.operator? = some .not
    · rw [zeroSigns_negation left right known, zeroSigns_negation left' right' (operators ▸ known), ihLeft]
    · have known' : tag'.operator? ≠ some .not := operators ▸ known
      have member := onRight.isEmptyMembership_eq named
      cases empty : isEmptyMembership tag right with
      | true => rw [zeroSigns_empty left right known empty, zeroSigns_empty left' right' known' (member ▸ empty)]
      | false =>
        rw [zeroSigns_filled left right known empty, zeroSigns_filled left' right' known' (member ▸ empty),
          List.length_append, List.length_append, ihLeft, ihRight]

namespace Alike

theorem zeroSigns_append_eq_iff {left left' : Operand} (onLeft : left.Alike left') (right right' : Operand) :
    left.zeroSigns ++ right.zeroSigns = left'.zeroSigns ++ right'.zeroSigns ↔
      left.zeroSigns = left'.zeroSigns ∧ right.zeroSigns = right'.zeroSigns :=
  ⟨fun same => List.append_inj same onLeft.length_zeroSigns, fun ⟨first, second⟩ => by rw [first, second]⟩

section Store

variable (store : Store) (given : Option String) (settings : Settings)

theorem write_value_parallel {right right' : Operand} (onRight : right.Alike right') (fit : right.isFit = true)
    (valued : right.isValue = true) :
    (right.write (store.dialect given) settings).Parallel (right'.write (store.dialect given) settings)
      (right.zeroSigns = right'.zeroSigns) := by
  cases onRight with
  | value same =>
    rw [write, write]
    exact Or.inl ⟨_, _, Writer.writes_append _, Writer.writes_append _, store.valueTexts_agree given same⟩
  | unfit => cases fit
  | key | expression | group | foreign => cases valued

/-- Equal expressions that compare are written side by side, if their left sides and symbols are. -/
theorem write_comparing_parallel {tag tag' : Tag} {left right left' right' : Operand}
    (compares : tag.operator?.any Operator.isLogical = false) (named : tag.name = tag'.name)
    (fit : (Operand.expression tag left right).isFit = true) (onLeft : left.Alike left') (onRight : right.Alike right')
    (lefts : (left.write (store.dialect given) settings).Parallel (left'.write (store.dialect given) settings)
      (left.zeroSigns = left'.zeroSigns))
    (symbols : (Writer.appendOr ((store.dialect given).symbolText tag)).Parallel
      (Writer.appendOr ((store.dialect given).symbolText tag')) True) :
    ((Operand.expression tag left right).write (store.dialect given) settings).Parallel
      ((Operand.expression tag' left' right').write (store.dialect given) settings)
      ((Operand.expression tag left right).zeroSigns = (Operand.expression tag' left' right').zeroSigns) := by
  obtain ⟨fitLeft, fitRight⟩ := isFit_expression_iff.1 fit
  have operators := Tag.operator?_congr named
  have compares' : tag'.operator?.any Operator.isLogical = false := operators ▸ compares
  have positive := operator?_ne_not compares
  have positive' := operator?_ne_not compares'
  cases valued : right.isValue with
  | false =>
    rw [write_malformed compares valued, write_malformed compares' (onRight.isValue_eq ▸ valued)]
    exact Writer.parallel_throw (by simp only [FilterError.category?_malformed])
  | true =>
    have valued' : right'.isValue = true := onRight.isValue_eq ▸ valued
    have member := onRight.isEmptyMembership_eq named
    cases empty : isEmptyMembership tag right with
    | true =>
      have empty' : isEmptyMembership tag' right' = true := member ▸ empty
      have settled : (store.dialect given).emptyMembershipText tag = (store.dialect given).emptyMembershipText tag' := by
        rw [Dialect.emptyMembershipText, Dialect.emptyMembershipText, operators]
      rw [write_emptyMembership compares valued empty, write_emptyMembership compares' valued' empty', settled,
        zeroSigns_empty left right positive empty, zeroSigns_empty left' right' positive' empty']
      exact (Writer.parallel_of_writes (Writer.writes_append _) (Writer.writes_append _)).of_iff
        (iff_of_true trivial rfl)
    | false =>
      have filled' : isEmptyMembership tag' right' = false := member ▸ empty
      rw [write_compared compares valued empty, write_compared compares' valued' filled',
        zeroSigns_filled left right positive empty, zeroSigns_filled left' right' positive' filled',
        ← store.arrange_eq_of_alike given named fitLeft onLeft onRight]
      have rights := onRight.write_value_parallel store given settings fitRight valued
      refine (store.parallel_assemble given tag left right symbols lefts rights).of_iff ?_
      rw [zeroSigns_append_eq_iff onLeft, true_and]

/-- Equal operands whose fields and values could have been checked are written side by side: the texts agree if the
same of the scalars that are written are the negative zero. -/
theorem write_parallel {t u : Operand} (fit : t.isFit = true) (alike : t.Alike u) :
    (t.write (store.dialect given) settings).Parallel (u.write (store.dialect given) settings)
      (t.zeroSigns = u.zeroSigns) := by
  induction size : t.size using Nat.strongRecOn generalizing t u with
  | ind n ih =>
    subst size
    have smaller {x y : Operand} (fit' : x.isFit = true) (alike' : x.Alike y) (less : x.size < t.size) :=
      ih x.size less fit' alike' rfl
    have spells := store.isInfix given
    have same {w w' : Writer} {s : String} (writes : w.Writes s) (writes' : w'.Writes s) :=
      Writer.parallel_of_writes writes writes'
    cases alike with
    | key name =>
      have writes := spells.writes_field settings name
      rw [write]
      exact (same writes writes).of_iff (iff_of_true trivial rfl)
    | value equal => exact (Alike.value equal).write_value_parallel store given settings rfl rfl
    | unfit => cases fit
    | foreign _ =>
      rw [write, write]
      exact Writer.parallel_throw (by simp only [FilterError.category?_unexpectedOperand])
    | @group inner _ content =>
      have bracket (s : String) := same (Writer.writes_append s) (Writer.writes_append s)
      have fitInner : inner.isFit = true := fit
      rw [write_group, write_group]
      exact ((bracket _).seq ((smaller fitInner content (by simp [Operand.size])).seq (bracket _))).of_iff
        (by simp [zeroSigns_group])
    | @expression tag tag' left right left' right' named onLeft onRight =>
      obtain ⟨fitLeft, fitRight⟩ := isFit_expression_iff.1 fit
      have operators := Tag.operator?_congr named
      have lefts := smaller fitLeft onLeft (by simp only [Operand.size]; omega)
      cases known : tag.operator? with
      | none =>
        have compares : tag.operator?.any Operator.isLogical = false := by rw [known, Option.any_none]
        refine write_comparing_parallel store given settings compares named fit onLeft onRight lefts ?_
        rw [store.symbolText_unknown given known, store.symbolText_unknown given (operators ▸ known)]
        exact Writer.parallel_throw (by simp only [FilterError.category?_noSymbol])
      | some op =>
        have known' : tag'.operator? = some op := operators ▸ known
        rcases op.kinds with rfl | ⟨c, rfl⟩ | compares
        · -- The negation is carried out on both sides, and the results, if there are any, are smaller.
          rw [zeroSigns_negation left right known, zeroSigns_negation left' right' known']
          rcases onLeft.push false with ⟨r, r', run, run', result⟩ | ⟨e, e', failed, failed', category⟩
          · have negated : left.negate = .ok r := (negate_eq_push left).trans run
            have shrunk := size_le_of_negate negated
            rw [write_negation known negated right, write_negation known' ((negate_eq_push left').trans run') right',
              ← zeroSigns_of_push run, ← zeroSigns_of_push run']
            exact smaller (isFit_of_push run fitLeft) result (by simp only [Operand.size]; omega)
          · rw [write_negation_fails known ((negate_eq_push left).trans failed),
              write_negation_fails known' ((negate_eq_push left').trans failed')]
            exact Writer.parallel_throw category
        · have rights := smaller fitRight onRight (by simp only [Operand.size]; omega)
          have symbols := same (spells.writes_symbol known c.operator_ne_not) (spells.writes_symbol known' c.operator_ne_not)
          have sides := store.parallel_assemble given tag left right symbols lefts rights
          rw [spells.arrange_connective c left right known] at sides
          rw [write_connective spells known, write_connective spells known', zeroSigns_connective left right known,
            zeroSigns_connective left' right' known']
          exact sides.of_iff (by rw [zeroSigns_append_eq_iff onLeft, true_and])
        · have comparing : tag.operator?.any Operator.isLogical = false := by rw [known, Option.any_some, compares]
          refine write_comparing_parallel store given settings comparing named fit onLeft onRight lefts ?_
          exact same (spells.writes_symbol known (Operator.ne_not compares))
            (spells.writes_symbol known' (Operator.ne_not compares))

end Store

end Alike

end Operand

/-- Equal operands whose fields and values could have been checked, as in all that is built, fail with errors of one
class in every store, or both are written. They are then written alike exactly if the same of the scalars in the texts
are the negative zero, which equals the other zero. -/
theorem equal_operands_written_alike_iff (store : Store) (given : Option String) (settings : Settings)
    {a b : Operand} (fit : a.isFit = true) (equal : a.equals b = true) :
    (∃ text text', (store.dialect given).render settings a = .ok text ∧
        (store.dialect given).render settings b = .ok text' ∧
        (text = text' ↔
          a.writtenScalars.map Scalar.isNegativeZero = b.writtenScalars.map Scalar.isNegativeZero)) ∨
      ∃ e e', (store.dialect given).render settings a = .error e ∧
        (store.dialect given).render settings b = .error e' ∧ e.category? = e'.category? := by
  rw [Operand.equals, Bool.and_eq_true] at equal
  have alike := Operand.same_iff_alike.1 equal.2
  rcases alike.write_parallel store given settings fit with ⟨s, s', writes, writes', agree⟩ | ⟨e, e', stops, stops', same⟩
  · exact Or.inl ⟨s, s', Dialect.render_of_writes writes, Dialect.render_of_writes writes', agree.eq_iff⟩
  · obtain ⟨_, run⟩ := stops
    obtain ⟨_, run'⟩ := stops'
    exact Or.inr ⟨e, e', Dialect.render_error_iff.2 ⟨_, run .empty⟩, Dialect.render_error_iff.2 ⟨_, run' .empty⟩, same⟩

/-- The zero on the right side of a negation is not written, so that its sign does no harm. -/
theorem negations_of_comparison_written_alike :
    let compared := Operand.expression (.known .eq) (.key "f") (.value (.scalar (.float ⟨0, 0⟩)))
    let denied (x : Binary64) := Operand.expression (.known .not) compared (.value (.scalar (.float x)))
    let a := denied ⟨0, 0⟩
    let b := denied ⟨0x8000000000000000, 0⟩
    a.Built ∧ b.Built ∧ a.equals b = true ∧
      ∀ (store : Store) (given : Option String) (settings : Settings), ∃ text,
        (store.dialect given).render settings a = .ok text ∧ (store.dialect given).render settings b = .ok text := by
  intro compared denied a b
  have builtCompared : compared.Built := .of_sides .eq (.field (by decide)) fun _ => .scalar _
  have built (x : Binary64) : (denied x).Built := .of_sides .not builtCompared fun _ => .scalar _
  have equal : a.equals b = true := by decide
  refine ⟨built _, built _, equal, fun store given settings => ?_⟩
  have written : ∃ text, (store.dialect given).render settings a = .ok text :=
    (Operand.render_ok_iff_fault store given settings a).2 rfl
  obtain ⟨text, run⟩ := written
  rcases equal_operands_written_alike_iff store given settings (built _).isFit equal with
    ⟨s, s', ran, ran', alike⟩ | ⟨e, e', failed, _⟩
  · exact ⟨s, ran, alike.2 (by decide) ▸ ran'⟩
  · rw [run] at failed
    cases failed

/-- Comparisons with the two zeros are equal, and no store writes them alike. -/
theorem comparisons_with_zeros_written_differently :
    let compared (x : Binary64) := Operand.expression (.known .eq) (.key "f") (.value (.scalar (.float x)))
    let a := compared ⟨0, 0⟩
    let b := compared ⟨0x8000000000000000, 0⟩
    a.Built ∧ b.Built ∧ a.equals b = true ∧
      ∀ (store : Store) (given : Option String) (settings : Settings), ∃ text text',
        (store.dialect given).render settings a = .ok text ∧
          (store.dialect given).render settings b = .ok text' ∧ text ≠ text' := by
  intro compared a b
  have built (x : Binary64) : (compared x).Built := .of_sides .eq (.field (by decide)) fun _ => .scalar _
  refine ⟨built _, built _, by decide, fun store given settings => ?_⟩
  have alike : a.Alike b := Operand.same_iff_alike.1 (by decide)
  have writes (x : Binary64) : ((compared x).write (store.dialect given) settings).Writes _ :=
    Operand.writes_comparison (store.isInfix given) (Tag.operator?_known .eq) rfl "f" (.scalar (.float x))
  rcases alike.write_parallel store given settings rfl with ⟨s, s', ran, ran', agree⟩ | ⟨e, e', ⟨s, stops⟩, _⟩
  · refine ⟨s, s', Dialect.render_of_writes ran, Dialect.render_of_writes ran', fun same => ?_⟩
    exact absurd (agree.eq_iff.1 same) (by decide)
  · have stopped := stops .empty
    rw [writes _ .empty] at stopped
    cases stopped

end FieldFilter
