import FieldFilter.Proofs.SqlText

namespace FieldFilter

namespace Dialect

namespace PgVector

theorem scalarText_eq (s : Scalar) : scalarText s = s.textWith (stringLiteral · false) := by
  cases s <;> rfl

theorem scalarText_unnumbered (s : Scalar) : scalarText s.unnumbered = scalarText s := by
  cases s <;> rfl

/-- Where a reference to a field of the metadata continues behind the name of the column. -/
def memberText (name : String) : String :=
  if name.toList.contains '.' then " #>> " ++ stringLiteral (pathLiteral name) false
  else "->>" ++ stringLiteral name false

/-- What may stand behind a field: the bracket that closes a cast, or a space and no path operator. -/
def EndsField (r : List Char) : Prop :=
  (∃ s, r = ')' :: s) ∨ ∃ c s, r = ' ' :: c :: s ∧ c ≠ '#'

theorem EndsField.outside {r : List Char} (ends : EndsField r) : StartsOutside (fun c => c == '"' || c == '.') r := by
  rcases ends with ⟨s, rfl⟩ | ⟨c, s, rfl, _⟩ <;> exact startsOutside_cons.2 (by decide)

theorem doubleQuote : "\"".toList = ['"'] := by
  decide

variable (column : Option String) (settings : Settings)

theorem fieldText_base {name : String} (base : isBaseColumn name = true) :
    fieldText column settings name = quotedIdentifier name "\"" := by
  rw [fieldText]
  simp only [base, if_true]

theorem fieldText_member {name : String} (other : isBaseColumn name = false) :
    fieldText column settings name =
      quotedIdentifier (metadataColumn column settings) "\"" ++ memberText name := by
  rw [fieldText, memberText]
  simp only [other, Bool.false_eq_true, if_false]
  split <;> simp only [String.append_assoc]

theorem pathLiteral_injective {a b : String} (same : pathLiteral a = pathLiteral b) : a = b := by
  have letters := congrArg String.toList same
  rw [pathLiteral, pathLiteral, String.toList_ofList, String.toList_ofList] at letters
  have parts := readsBack_arrayLiteral.meaning_eq trivial (splitDots_ne_nil _) (splitDots_ne_nil _) letters
  exact String.toList_inj.1 (splitDots_injective parts)

theorem memberText_begins (name : String) :
    ∃ rest, (memberText name).toList = ' ' :: '#' :: rest ∧ name.toList.contains '.' = true ∨
      (memberText name).toList = '-' :: rest ∧ name.toList.contains '.' = false := by
  unfold memberText
  cases nested : name.toList.contains '.' with
  | true =>
    rw [if_pos rfl, String.toList_append]
    exact ⟨_, Or.inl ⟨rfl, rfl⟩⟩
  | false =>
    rw [if_neg (by decide), String.toList_append]
    exact ⟨_, Or.inr ⟨rfl, rfl⟩⟩

/-- A path is told from a single member by the operator in front of it. -/
theorem readsBack_memberText : ReadsBack (fun _ => True) EndsField (fun name => (memberText name).toList) id := by
  intro a b r s _ _ atLeft atRight same
  have quote {r : List Char} (ends : EndsField r) : StartsOutside (· == '\'') r := by
    rcases ends with ⟨s, rfl⟩ | ⟨c, s, rfl, _⟩ <;> exact startsOutside_cons.2 (by decide)
  obtain ⟨rest, begins⟩ := memberText_begins a
  obtain ⟨rest', begins'⟩ := memberText_begins b
  rcases begins with ⟨begins, nested⟩ | ⟨begins, nested⟩ <;>
    rcases begins' with ⟨begins', nested'⟩ | ⟨begins', nested'⟩
  · simp only [memberText, nested, nested', if_true, String.toList_append, List.append_assoc,
      List.append_cancel_left_eq] at same
    obtain ⟨paths, rests⟩ := readsBack_stringLiteral false trivial trivial (quote atLeft) (quote atRight) same
    exact ⟨pathLiteral_injective paths, rests⟩
  · exact absurd same (append_ne_of_heads ⟨_, begins⟩ ⟨_, begins'⟩ (by decide) r s)
  · exact absurd same (append_ne_of_heads ⟨_, begins⟩ ⟨_, begins'⟩ (by decide) r s)
  · simp only [memberText, nested, nested', Bool.false_eq_true, if_false, String.toList_append,
      List.append_assoc, List.append_cancel_left_eq] at same
    exact readsBack_stringLiteral false trivial trivial (quote atLeft) (quote atRight) same

theorem endsField_ne_memberText {r : List Char} (ends : EndsField r) (name : String) (s : List Char) :
    r ≠ (memberText name).toList ++ s := by
  obtain ⟨rest, begins⟩ := memberText_begins name
  rcases ends with ⟨t, rfl⟩ | ⟨c, t, rfl, other⟩
  · rcases begins with ⟨begins, _⟩ | ⟨begins, _⟩ <;> simp [begins]
  · rcases begins with ⟨begins, _⟩ | ⟨begins, _⟩ <;> simp [begins, other]

theorem memberText_outside (name : String) (s : List Char) :
    StartsOutside (fun c => c == '"' || c == '.') ((memberText name).toList ++ s) := by
  obtain ⟨rest, begins⟩ := memberText_begins name
  rcases begins with ⟨begins, _⟩ | ⟨begins, _⟩ <;> rw [begins] <;> exact startsOutside_cons.2 (by decide)

/-- A field reads back, also where the metadata column has the name of a base column. -/
theorem readsBack_fieldText :
    ReadsBack (fun _ => True) EndsField (fun name => (fieldText column settings name).toList) id := by
  -- A base column and a member of the column of that name have the same identifier; what follows it differs.
  have identifiers := readsBack_quotedIdentifier doubleQuote (by decide)
  intro a b r s _ _ atLeft atRight same
  cases base : isBaseColumn a <;> cases base' : isBaseColumn b
  · simp only [fieldText_member column settings base, fieldText_member column settings base',
      String.toList_append, List.append_assoc, List.append_cancel_left_eq] at same
    exact readsBack_memberText trivial trivial atLeft atRight same
  · simp only [fieldText_member column settings base, fieldText_base column settings base',
      String.toList_append, List.append_assoc] at same
    have rests := (identifiers trivial trivial (memberText_outside a r) atRight.outside same).2
    exact absurd rests.symm (endsField_ne_memberText atRight a r)
  · simp only [fieldText_base column settings base, fieldText_member column settings base',
      String.toList_append, List.append_assoc] at same
    have rests := (identifiers trivial trivial atLeft.outside (memberText_outside b s) same).2
    exact absurd rests (endsField_ne_memberText atLeft b s)
  · simp only [fieldText_base column settings base, fieldText_base column settings base'] at same
    exact identifiers trivial trivial atLeft.outside atRight.outside same

theorem fieldText_begins (name : String) : ∃ rest, (fieldText column settings name).toList = '"' :: rest := by
  cases base : isBaseColumn name with
  | true =>
    rw [fieldText_base column settings base]
    exact quotedIdentifier_begins doubleQuote name
  | false =>
    obtain ⟨rest, begins⟩ := quotedIdentifier_begins doubleQuote (metadataColumn column settings)
    rw [fieldText_member column settings base, String.toList_append, begins]
    exact ⟨_, rfl⟩

def castOf? (name : String) (v : Value) : Option String :=
  if isBaseColumn name then none else castFor? v

/-- What stands in front of the symbol. -/
def front (name : String) (v : Value) : String :=
  match castOf? name v with
  | some type => "(" ++ (fieldText column settings name ++ (")::" ++ type))
  | none => fieldText column settings name

theorem castOf?_cases (name : String) (v : Value) :
    castOf? name v = none ∨ castOf? name v = some "boolean" ∨ castOf? name v = some "numeric" := by
  unfold castOf? castFor?
  split
  · exact Or.inl rfl
  · split
    · exact Or.inr (Or.inl rfl)
    · split
      · exact Or.inr (Or.inr rfl)
      · exact Or.inl rfl

theorem atomText_comparison {op : Operator} (compares : op.isLogical = false) (name : String) (v : Value) :
    (pgVector column).atomText settings (.comparison op name v) =
      front column settings name v ++ (sqlSymbol op ++ (pgVector column).valueText v) := by
  have cast : cast? (.known op) (.key name) (.value v) = castOf? name v := by
    rw [cast?]
    simp only [Tag.operator?_known, Option.any_some, compares, Bool.false_eq_true, if_false]
    rfl
  show String.join ((arrange (.known op) (.key name) (.value v)).map _) = _
  unfold arrange front
  rw [cast]
  cases castOf? name v with
  | none =>
    simp only [List.map_cons, List.map_nil, String.join_cons, String.join_nil, String.append_empty]
    rfl
  | some type =>
    simp only [List.map_cons, List.map_nil, String.join_cons, String.join_nil, String.append_empty,
      String.append_assoc]
    rfl

theorem front_plain {name : String} {v : Value} (plain : castOf? name v = none) :
    front column settings name v = fieldText column settings name := by
  rw [front, plain]

theorem front_cast {name type : String} {v : Value} (cast : castOf? name v = some type) :
    (front column settings name v).toList =
      '(' :: ((fieldText column settings name).toList ++ ')' :: ':' :: ':' :: type.toList) := by
  have opening : "(".toList = ['('] := by decide
  have closing : ")::".toList = [')', ':', ':'] := by decide
  rw [front, cast]
  simp only [String.toList_append, opening, closing, List.cons_append, List.nil_append]

theorem endsField_symbolAhead {r : List Char} (ahead : (pgVector column).SymbolAhead r) : EndsField r := by
  obtain ⟨op, s, compares, rfl⟩ := ahead
  obtain ⟨c, rest, begins, other⟩ := sqlSymbol_begins compares
  exact Or.inr ⟨c, rest ++ s, congrArg (· ++ s) begins, other⟩

theorem types_read {type type' : String} {r s : List Char} (given : type = "boolean" ∨ type = "numeric")
    (given' : type' = "boolean" ∨ type' = "numeric") (same : type.toList ++ r = type'.toList ++ s) : r = s := by
  have boolean : "boolean".toList = ['b', 'o', 'o', 'l', 'e', 'a', 'n'] := by decide
  have numeric : "numeric".toList = ['n', 'u', 'm', 'e', 'r', 'i', 'c'] := by decide
  rcases given with rfl | rfl <;> rcases given' with rfl | rfl
  · exact List.append_cancel_left same
  · simp [boolean, numeric] at same
  · simp [boolean, numeric] at same
  · exact List.append_cancel_left same

/-- A field reads back, also within a cast: no field begins with a bracket. -/
theorem readsBack_front : ReadsBack (fun _ => True) (pgVector column).SymbolAhead
    (fun given : String × Value => (front column settings given.1 given.2).toList) Prod.fst := by
  have known {name type : String} {v : Value} (cast : castOf? name v = some type) :
      type = "boolean" ∨ type = "numeric" := by
    rcases castOf?_cases name v with plain | boolean | numeric
    · exact absurd (plain.symm.trans cast) (by simp)
    · exact Or.inl (Option.some.inj (boolean.symm.trans cast)).symm
    · exact Or.inr (Option.some.inj (numeric.symm.trans cast)).symm
  have apart {name name' type : String} {v v' : Value} {r s : List Char} (plain : castOf? name v = none)
      (cast : castOf? name' v' = some type) :
      (front column settings name v).toList ++ r ≠ (front column settings name' v').toList ++ s := by
    rw [front_plain column settings plain]
    exact append_ne_of_heads (fieldText_begins column settings name)
      ⟨_, front_cast column settings cast⟩ (by decide) r s
  rintro ⟨a, v⟩ ⟨b, w⟩ r s - - atLeft atRight same
  have ends := endsField_symbolAhead column atLeft
  have ends' := endsField_symbolAhead column atRight
  cases cast : castOf? a v with
  | none =>
    cases cast' : castOf? b w with
    | none =>
      simp only [front_plain column settings cast, front_plain column settings cast'] at same
      exact readsBack_fieldText column settings trivial trivial ends ends' same
    | some type => exact absurd same (apart cast cast')
  | some type =>
    cases cast' : castOf? b w with
    | none => exact absurd same.symm (apart cast' cast)
    | some type' =>
      simp only [front_cast column settings cast, front_cast column settings cast', List.cons_append,
        List.append_assoc, List.cons.injEq, true_and] at same
      obtain ⟨fields, rests⟩ := readsBack_fieldText column settings trivial trivial
        (Or.inl ⟨_, rfl⟩) (Or.inl ⟨_, rfl⟩) same
      simp only [List.cons.injEq, true_and] at rests
      exact ⟨fields, types_read (known cast) (known cast') rests⟩

theorem truth_ne_front (truth : Bool) (name : String) (v : Value) (r s : List Char) :
    (sqlTruth truth).toList ++ r ≠ (front column settings name v).toList ++ s := by
  cases cast : castOf? name v with
  | none =>
    rw [front_plain column settings cast]
    exact sqlTruth_ne truth (fieldText_begins column settings name) (by decide) (by decide) r s
  | some type => exact sqlTruth_ne truth ⟨_, front_cast column settings cast⟩ (by decide) (by decide) r s

/-- A cast depends on the kinds of what a field is compared with. -/
theorem castFor?_of_kinds {v w : Value} (kinds : v.scalars.map Scalar.kind = w.scalars.map Scalar.kind) :
    castFor? v = castFor? w := by
  have all (u : Value) (kind : ScalarKind) :
      u.scalars.all (·.kind == kind) = (u.scalars.map Scalar.kind).all (· == kind) := by
    rw [List.all_map]
    rfl
  unfold castFor?
  rw [all v, all w, all v, all w, kinds]

theorem castFor?_congr {v w : Value} (same : v.contents Scalar.unnumbered = w.contents Scalar.unnumbered) :
    castFor? v = castFor? w := by
  have kept (s : Scalar) : s.unnumbered.kind = s.kind := by cases s <;> rfl
  have counted (l : List Scalar) : l.map Scalar.kind = (l.map Scalar.unnumbered).map Scalar.kind := by
    rw [List.map_map]
    exact List.map_congr_left fun s _ => (kept s).symm
  apply castFor?_of_kinds
  cases v with
  | scalar s =>
    cases w with
    | scalar t =>
      rw [Value.scalars, Value.scalars, counted [s], counted [t]]
      exact congrArg (fun u => [Scalar.kind u]) (Contents.scalar.inj same)
    | list m => exact absurd same (by simp [Value.contents])
  | list l =>
    cases w with
    | scalar t => exact absurd same (by simp [Value.contents])
    | list m =>
      rw [Value.scalars, Value.scalars, counted l.items, counted m.items, Contents.list.inj same]

end PgVector

theorem pgVector_spellsAtoms (column : Option String) (settings : Settings) :
    (pgVector column).SpellsAtoms settings isSqlLetter Scalar.unnumbered (PgVector.front column settings) where
  values := spellsValues_of_literals (f := id) rfl rfl rfl PgVector.scalarText_eq fun _ => rfl
  outside := by decide
  comparison := fun _ name v compares => PgVector.atomText_comparison column settings compares name v
  field := PgVector.readsBack_front column settings
  symbol := readsBack_sqlSymbol
  constant := readsBack_sqlTruth
  shown := PgVector.scalarText_unnumbered
  front_congr := by
    intro name v w same
    unfold PgVector.front PgVector.castOf?
    rw [PgVector.castFor?_congr same]
  settled := fun truth name v r s _ => PgVector.truth_ne_front column settings truth name v r s

namespace PgVector

variable (column : Option String) (settings : Settings)

/-- An atom that begins with a bracket is the comparison of a cast field. -/
theorem atomText_bracketed {b : Atom Value} {r s : List Char} (given : b.Writable)
    (same : '(' :: r = ((pgVector column).atomText settings b).toList ++ s) :
    ∃ name rest, r = (fieldText column settings name).toList ++ ')' :: rest := by
  cases b with
  | constant truth =>
    exact absurd same.symm (sqlTruth_ne truth (t := ['(']) ⟨[], rfl⟩ (by decide) (by decide) s r)
  | comparison op name v =>
    rw [atomText_comparison column settings given.1, String.toList_append, List.append_assoc] at same
    cases cast : castOf? name v with
    | none =>
      rw [front_plain column settings cast] at same
      exact absurd same.symm (append_ne_of_heads (t := ['(']) (fieldText_begins column settings name)
        ⟨[], rfl⟩ (by decide) _ r)
    | some type =>
      rw [front_cast column settings cast] at same
      simp only [List.cons_append, List.cons.injEq, true_and, List.append_assoc] at same
      exact ⟨name, _, same⟩

/-- The bracket of a group is never taken for the bracket of a cast: behind the field of the group comes a
symbol, and behind the field of the cast a bracket. -/
theorem bracketed {a b : Atom Value} {r s : List Char} (given : a.Writable) (given' : b.Writable) :
    '(' :: (((pgVector column).atomText settings a).toList ++ r) ≠
      ((pgVector column).atomText settings b).toList ++ s := by
  intro same
  obtain ⟨name, rest, fields⟩ := atomText_bracketed column settings given' same
  have begins := fieldText_begins column settings name
  cases a with
  | constant truth => exact absurd fields (sqlTruth_ne truth begins (by decide) (by decide) r _)
  | comparison op name' v =>
    rw [atomText_comparison column settings given.1, String.toList_append, List.append_assoc] at fields
    cases cast : castOf? name' v with
    | none =>
      obtain ⟨c, symbol, spaced, other⟩ := sqlSymbol_begins given.1
      rw [front_plain column settings cast, String.toList_append, List.append_assoc, spaced] at fields
      have rests := (readsBack_fieldText column settings trivial trivial (Or.inr ⟨c, _, rfl, other⟩)
        (Or.inl ⟨rest, rfl⟩) fields).2
      exact absurd (List.cons.inj rests).1 (by decide)
    | some type =>
      exact absurd fields (append_ne_of_heads ⟨_, front_cast column settings cast⟩ begins (by decide) _ _)

theorem doubled {b : Atom Value} {r s : List Char} (given : b.Writable) :
    '(' :: '(' :: r ≠ ((pgVector column).atomText settings b).toList ++ s := by
  intro same
  obtain ⟨name, rest, fields⟩ := atomText_bracketed column settings given same
  exact absurd fields (append_ne_of_heads (s := ['(']) ⟨[], rfl⟩ (fieldText_begins column settings name)
    (by decide) r _)

end PgVector

theorem pgVector_spellsTokens (column : Option String) (settings : Settings) :
    (pgVector column).SpellsTokens settings Atom.Writable (Value.contents Scalar.unnumbered) where
  opening := show "(".toList = ['('] by decide
  closing := show ")".toList = [')'] by decide
  joint := readsBack_sqlConnective
  spaced := sqlConnective_begins
  atom := (pgVector_spellsAtoms column settings).readsBack_atomText
  bracketed := fun _ _ _ _ given given' _ _ => PgVector.bracketed column settings given given'
  doubled := fun _ _ _ given _ => PgVector.doubled column settings given
  congr := fun _ _ => (pgVector_spellsAtoms column settings).atomText_congr

end Dialect

end FieldFilter
