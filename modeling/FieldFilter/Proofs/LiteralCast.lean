import FieldFilter.Proofs.Faithful
import FieldFilter.Proofs.NumericLiteral
import FieldFilter.Proofs.PgVectorText
import FieldFilter.Proofs.Settled
import FieldFilter.Proofs.StoredValue

namespace FieldFilter

/-- What an atom holds, if the token is one. -/
def Token.atom? {α : Type} : Token α → Option α
  | .atom a => some a
  | _ => none

theorem Atom.ofComparison_of_nonempty (op : Operator) (field : String) {v : Value} (nonempty : v.scalars ≠ []) :
    Atom.ofComparison op field v = .comparison op field v := by
  rw [ofComparison, if_neg]
  intro empty
  obtain ⟨_, l, rfl, none⟩ := Operand.isEmptyMembership_iff.1 empty
  exact nonempty none

namespace Operand

/-- An operand under negations, the outermost first. -/
def underNegations (t : Operand) : List (Tag × Operand) → Operand
  | [] => t
  | (tag, right) :: rest => .expression tag (t.underNegations rest) right

variable {negations : List (Tag × Operand)}

theorem push_underNegations (t : Operand) (negate : ∀ n ∈ negations, n.1.operator? = some .not) (kept : Bool) :
    (t.underNegations negations).push kept = t.push (kept == (negations.length % 2 == 0)) := by
  induction negations generalizing kept with
  | nil => cases kept <;> rfl
  | cons first rest ih =>
    rw [underNegations, push_negation kept _ _ (negate first List.mem_cons_self),
      ih fun n member => negate n (List.mem_cons_of_mem _ member), List.length_cons, even_succ]
    cases kept <;> cases rest.length % 2 == 0 <;> rfl

variable {d : Dialect} {settings : Settings}

/-- A comparison under negations is written as a comparison of the same sides. -/
theorem writes_underNegations (spells : d.Infix) {tag : Tag} {op : Operator} (known : tag.operator? = some op)
    (compares : op.isLogical = false) (negate : ∀ n ∈ negations, n.1.operator? = some .not) (field : String)
    (v : Value) :
    (((Operand.expression tag (.key field) (.value v)).underNegations negations).write d settings).Writes
      (d.atomText settings (.ofComparison (op.signed (negations.length % 2 == 0)) field v)) := by
  cases negations with
  | nil => exact writes_comparison spells known compares field v
  | cons first rest =>
    have inner := push_underNegations (.expression tag (.key field) (.value v))
      (fun n member => negate n (List.mem_cons_of_mem first member)) false
    have pushed : (Operand.expression tag (.key field) (.value v)).push (false == (rest.length % 2 == 0)) =
        .ok (.expression (.known (op.signed (false == (rest.length % 2 == 0)))) (.key field) (.value v)) :=
      (push_comparison_eq_ok_iff known compares).2 ⟨⟨rfl, Or.inr rfl⟩, rfl⟩
    rw [← inner, ← negate_eq_push] at pushed
    rw [underNegations, write_negation (negate first List.mem_cons_self) pushed, List.length_cons, even_succ,
      ← Bool.false_beq]
    exact writes_comparison spells (Tag.operator?_known _) (Operator.isLogical_signed compares _) field v

/-- Carrying out the negations leaves the sides of comparisons as they are, and in their order. -/
theorem compared_of_resolved {t p : Operand} (run : t.resolved = .ok p) : p.compared = t.compared := by
  induction t using inductionByOperator generalizing p with
  | key | value | unfit | foreign =>
    cases run
    rfl
  | group content ih =>
    rw [resolved] at run
    cases inner : content.resolved <;> rw [inner] at run <;> cases run
    rw [compared, compared, ih inner]
  | unknown tag left right unknown =>
    rw [resolved, unknown] at run
    cases run
    rfl
  | negation tag left right known =>
    rw [resolved, known] at run
    have run : left.negate = .ok p := run
    rw [negate_eq_push] at run
    rw [compared_negation left right known, compared_of_push run]
  | connective tag c left right known ihLeft ihRight =>
    rw [resolved_connective known] at run
    cases runLeft : left.resolved <;> cases runRight : right.resolved <;> rw [runLeft, runRight] at run <;>
      cases run
    rw [compared_connective _ _ known, compared_connective left right known, ihLeft runLeft, ihRight runRight]
  | comparison tag op left right known compares =>
    rw [resolved_comparison known compares] at run
    cases run
    rfl

/-- The atoms of a plain filter are its comparisons, from left to right. -/
theorem Plain.atoms_compared {t : Operand} (plain : t.Plain) :
    List.Forall₂ (fun a sides => ∃ op field v, Operator.isLogical op = false ∧ a = Atom.ofComparison op field v ∧
      sides = (Operand.key field, Operand.value v)) (t.chain.tokens.filterMap Token.atom?) t.compared := by
  induction plain with
  | @comparison tag op field v known compares =>
    rw [chain_comparison known compares, compared_comparison _ _ known compares]
    exact .cons ⟨op, field, v, compares, rfl, rfl⟩ .nil
  | connective c known _ _ left right =>
    rw [chain_connective known, Chain.tokens_append, List.filterMap_append, compared_connective _ _ known]
    exact List.rel_append left right
  | @group content _ inner =>
    have bracketed : (Operand.group content).chain.tokens.filterMap Token.atom? =
        content.chain.tokens.filterMap Token.atom? := by
      show (Token.opening :: (content.chain.tokens ++ [Token.closing])).filterMap Token.atom? = _
      rw [List.filterMap_cons_none rfl, List.filterMap_append]
      exact List.append_nil _
    rw [bracketed, compared]
    exact inner

end Operand

namespace Dialect

namespace PgVector

/-- The texts of the literals of a kind. Numbers that are not finite have a word for a text. -/
def IsLiteralOf (text : String) : ScalarKind → Prop
  | .boolean => text = "true" ∨ text = "false"
  | .number => NumericLiteral text.toList ∨ text ∈ ["inf", "-inf", "nan"]
  | .string => ∃ s, text = stringLiteral s false

/-- The kind that the first character of a literal tells. -/
def kindOfFirst (c : Char) : ScalarKind :=
  if c = '\'' then .string else if c = 't' ∨ c = 'f' then .boolean else .number

theorem kindOfFirst_of_isDigit {c : Char} (digit : c.isDigit = true) : kindOfFirst c = .number := by
  have apart {x : Char} (other : x.isDigit = false) : c ≠ x := by
    rintro rfl
    exact absurd (other.symm.trans digit) (by decide)
  rw [kindOfFirst, if_neg (apart (by decide)), if_neg]
  rintro (truth | falsity)
  · exact apart (by decide) truth
  · exact apart (by decide) falsity

theorem IsLiteralOf.begins {text : String} {kind : ScalarKind} (literal : IsLiteralOf text kind) :
    ∃ c rest, text.toList = c :: rest ∧ kindOfFirst c = kind := by
  cases kind with
  | boolean =>
    rcases literal with rfl | rfl
    · exact ⟨'t', _, rfl, by decide⟩
    · exact ⟨'f', _, rfl, by decide⟩
  | number =>
    rcases literal with numeric | word
    · generalize text.toList = s at numeric
      cases numeric with
      | positive numeral =>
        obtain ⟨c, rest, rfl, digit⟩ := numeral.begins
        exact ⟨c, rest, rfl, kindOfFirst_of_isDigit digit⟩
      | negative numeral => exact ⟨'-', _, rfl, by decide⟩
    · rw [List.mem_cons, List.mem_cons, List.mem_singleton] at word
      rcases word with rfl | rfl | rfl
      · exact ⟨'i', _, rfl, by decide⟩
      · exact ⟨'-', _, rfl, by decide⟩
      · exact ⟨'n', _, rfl, by decide⟩
  | string =>
    obtain ⟨s, rfl⟩ := literal
    obtain ⟨rest, spelled⟩ := stringLiteral_begins s false
    exact ⟨'\'', rest, spelled, by decide⟩

theorem IsLiteralOf.kind_unique {text : String} {kind kind' : ScalarKind} (literal : IsLiteralOf text kind)
    (literal' : IsLiteralOf text kind') : kind = kind' := by
  obtain ⟨c, rest, spelled, first⟩ := literal.begins
  obtain ⟨c', rest', spelled', first'⟩ := literal'.begins
  rw [← first, ← first', (List.cons.inj (spelled.symm.trans spelled')).1]

theorem isLiteralOf_scalarText (s : Scalar) : IsLiteralOf (scalarText s) s.kind := by
  have number {s : Scalar} (number : s.kind = .number) : IsLiteralOf s.bareText .number := by
    cases finite : s.isFinite with
    | true => exact Or.inl (Scalar.numericLiteral_bareText number finite)
    | false => exact Or.inr (Scalar.bareText_of_not_finite finite)
  cases s with
  | text s => exact ⟨s, rfl⟩
  | bool b =>
    cases b
    · exact Or.inr rfl
    · exact Or.inl rfl
  | int n => exact number (s := .int n) rfl
  | float x => exact number (s := .float x) rfl

/-- The text of a scalar tells its kind. -/
theorem isLiteralOf_scalarText_iff {s : Scalar} {kind : ScalarKind} :
    IsLiteralOf (scalarText s) kind ↔ s.kind = kind :=
  ⟨(isLiteralOf_scalarText s).kind_unique, fun same => same ▸ isLiteralOf_scalarText s⟩

/-- A reference as it is compared with literals of a kind. -/
def castText (reference : String) : ScalarKind → String
  | .boolean => "(" ++ reference ++ ")::boolean"
  | .number => "(" ++ reference ++ ")::numeric"
  | .string => reference

theorem castText_injective {reference : String} {kind kind' : ScalarKind}
    (same : castText reference kind = castText reference kind') : kind = kind' := by
  have letters := congrArg String.toList same
  have lengths := congrArg List.length letters
  -- Two casts differ in the type, and a cast is longer than the reference alone.
  cases kind <;> cases kind' <;> simp [castText] at letters lengths ⊢ <;> omega

theorem castFor?_of_kind {v : Value} {kind : ScalarKind} (nonempty : v.scalars ≠ [])
    (kinds : ∀ s ∈ v.scalars, s.kind = kind) :
    castFor? v =
      match kind with
      | .boolean => some "boolean"
      | .number => some "numeric"
      | .string => none := by
  have every (asked : ScalarKind) : v.scalars.all (·.kind == asked) = (kind == asked) := by
    obtain ⟨s, rest, given⟩ := List.exists_cons_of_ne_nil nonempty
    have first : s.kind = kind := kinds s (given ▸ List.mem_cons_self)
    rw [Bool.eq_iff_iff, List.all_eq_true, beq_iff_eq]
    constructor
    · intro all
      rw [← first]
      exact beq_iff_eq.1 (all s (given ▸ List.mem_cons_self))
    · rintro rfl t member
      exact beq_iff_eq.2 (kinds t member)
  rw [castFor?, every, every]
  cases kind <;> rfl

theorem front_base (column : Option String) (settings : Settings) {name : String} (base : isBaseColumn name = true)
    (v : Value) : front column settings name v = fieldText column settings name := by
  have plain : castOf? name v = none := by rw [castOf?, if_pos base]
  exact front_plain column settings plain

theorem front_eq_castText (column : Option String) (settings : Settings) {name : String}
    (other : isBaseColumn name = false) {v : Value} {kind : ScalarKind} (nonempty : v.scalars ≠ [])
    (kinds : ∀ s ∈ v.scalars, s.kind = kind) :
    front column settings name v = castText (fieldText column settings name) kind := by
  have cast : castOf? name v = castFor? v := by rw [castOf?, other, if_neg Bool.false_ne_true]
  rw [front, cast, castFor?_of_kind nonempty kinds]
  cases kind with
  | boolean | number => exact (String.append_assoc ..).symm
  | string => rfl

/-- A field of the metadata is compared under the cast for a kind exactly if all literals are of that kind. -/
theorem front_eq_castText_iff (column : Option String) (settings : Settings) {name : String}
    (other : isBaseColumn name = false) {v : Value} (nonempty : v.scalars ≠ []) (kind : ScalarKind) :
    front column settings name v = castText (fieldText column settings name) kind ↔
      ∀ text ∈ v.scalars.map scalarText, IsLiteralOf text kind := by
  obtain ⟨actual, kinds⟩ := v.exists_kind
  obtain ⟨s, rest, given⟩ := List.exists_cons_of_ne_nil nonempty
  have first : s ∈ v.scalars := given ▸ List.mem_cons_self
  rw [front_eq_castText column settings other nonempty kinds, List.forall_mem_map]
  simp only [isLiteralOf_scalarText_iff]
  constructor
  · intro same t member
    exact (kinds t member).trans (castText_injective same)
  · intro all
    rw [← kinds s first, all s first]

/-- For a field and a value with literals in it there is one text that stands on the left of the symbol wherever they
are compared, be it under any negations or anywhere in a filter, among the tokens of what it resolves to. For a base
column it is the reference. For a field of the metadata it is the reference under the cast for the one kind that all
of the literals are of. -/
theorem cast_matches_literals (column : Option String) (settings : Settings) (name : String) {v : Value}
    (nonempty : v.scalars ≠ []) :
    let d := pgVector column
    let reference := fieldText column settings name
    let literals := v.scalars.map d.scalarText
    let right := if v.isList then "(" ++ String.intercalate ", " literals ++ ")" else String.join literals
    ∃ left : String,
      (isBaseColumn name = true → left = reference) ∧
      (isBaseColumn name = false → (∃ kind, left = castText reference kind) ∧
        ∀ kind, left = castText reference kind ↔ ∀ text ∈ literals, IsLiteralOf text kind) ∧
      (∀ (tag : Tag) (op : Operator) (negations : List (Tag × Operand)), tag.operator? = some op →
        op.isLogical = false → (∀ n ∈ negations, n.1.operator? = some .not) →
        (((Operand.expression tag (.key name) (.value v)).underNegations negations).write d settings).Writes
          (left ++ (sqlSymbol (op.signed (negations.length % 2 == 0)) ++ right))) ∧
      ∀ t : Operand, t.WellFormed → ∃ p, t.resolved = .ok p ∧ p.Plain ∧
        d.render settings t = .ok (d.tokensText settings p.chain.tokens) ∧
        List.Forall₂ (fun a sides => sides = (Operand.key name, Operand.value v) →
          ∃ op, Operator.isLogical op = false ∧ d.atomText settings a = left ++ (sqlSymbol op ++ right))
          (p.chain.tokens.filterMap Token.atom?) t.compared := by
  intro d reference literals right
  have spells : d.Infix := Store.pgVector.isInfix column
  have spelled : d.valueText v = right := d.valueText_eq_literals v
  have atom {op : Operator} (compares : op.isLogical = false) :
      d.atomText settings (.ofComparison op name v) = front column settings name v ++ (sqlSymbol op ++ right) := by
    rw [Atom.ofComparison_of_nonempty op name nonempty, atomText_comparison column settings compares, ← spelled]
  refine ⟨front column settings name v, fun base => front_base column settings base v, fun other => ⟨?_, ?_⟩, ?_,
    fun t wellFormed => ?_⟩
  · obtain ⟨kind, kinds⟩ := v.exists_kind
    exact ⟨kind, front_eq_castText column settings other nonempty kinds⟩
  · exact front_eq_castText_iff column settings other nonempty
  · intro tag op negations known compares negate
    rw [← atom (Operator.isLogical_signed compares _)]
    exact Operand.writes_underNegations spells known compares negate name v
  · obtain ⟨p, run, plain, _, same⟩ := wellFormed.resolved_exists
    refine ⟨p, run, plain, render_of_writes (same settings spells ▸ plain.writes spells), ?_⟩
    rw [← Operand.compared_of_resolved run]
    refine plain.atoms_compared.imp fun a sides ⟨op, field, w, compares, isAtom, areSides⟩ given =>
      ⟨op, compares, ?_⟩
    obtain ⟨key, value⟩ := Prod.mk.inj (areSides.symm.trans given)
    cases key
    cases value
    rw [isAtom, atom compares]

/-- A list of a whole number and a double is one of numbers. -/
theorem numbers_cast_under_three_negations :
    let v : Value := .list ⟨[.int 2, .float ⟨0x3FE0000000000000, 0⟩], by decide⟩
    let denied (t : Operand) := Operand.expression (.known .not) t .absent
    let t := denied (denied (denied (.expression (.known .isIn) (.key "info.year") (.value v))))
    v.scalars ≠ [] ∧ (pgVector none).render default t =
      .ok "(\"metadata\" #>> '\x7b\"info\",\"year\"\x7d')::numeric NOT IN (2, 0.5)" := by
  intro v denied t
  have nonempty : v.scalars ≠ [] := List.cons_ne_nil _ _
  obtain ⟨left, _, cast, written, _⟩ := cast_matches_literals none default "info.year" nonempty
  have numeric : left = castText (fieldText none default "info.year") .number := by
    refine ((cast (by decide)).2 .number).2 (List.forall_mem_map.2 fun s member => isLiteralOf_scalarText_iff.2 ?_)
    revert s
    decide
  have writes := written (.known .isIn) .isIn (List.replicate 3 (.known .not, .absent)) rfl rfl (by simp)
  refine ⟨nonempty, render_of_writes ?_⟩
  rw [numeric] at writes
  have spelled : castText (fieldText none default "info.year") .number ++ (sqlSymbol .notIn ++ "(2, 0.5)") =
      "(\"metadata\" #>> '\x7b\"info\",\"year\"\x7d')::numeric NOT IN (2, 0.5)" := by decide +kernel
  have listed : (pgVector none).valueText v = "(2, 0.5)" := by decide +kernel
  rw [← spelled, ← listed]
  exact writes

end PgVector

end Dialect

end FieldFilter
