import FieldFilter.Proofs.MilvusText
import FieldFilter.Proofs.ValueText

namespace FieldFilter

/-- A row of at least one digit. -/
structure Digits (s : List Char) : Prop where
  nonempty : s ≠ []
  all : AllDigits s

/-- A point with digits after it, or nothing. -/
inductive FractionPart : List Char → Prop
  | absent : FractionPart []
  | present {digits : List Char} : Digits digits → FractionPart ('.' :: digits)

/-- An exponent with or without a sign, or nothing. -/
inductive ExponentPart : List Char → Prop
  | absent : ExponentPart []
  | unsigned {digits : List Char} : Digits digits → ExponentPart ('e' :: digits)
  | signed {sign : Char} {digits : List Char} : sign = '+' ∨ sign = '-' → Digits digits →
      ExponentPart ('e' :: sign :: digits)

/-- Digits, then perhaps a fraction, then perhaps an exponent. -/
inductive Numeral : List Char → Prop
  | parts {whole fraction exponent : List Char} : Digits whole → FractionPart fraction → ExponentPart exponent →
      Numeral (whole ++ fraction ++ exponent)

/-- A numeral, with or without a minus sign. -/
inductive NumericLiteral : List Char → Prop
  | positive {s : List Char} : Numeral s → NumericLiteral s
  | negative {s : List Char} : Numeral s → NumericLiteral ('-' :: s)

theorem Digits.append_right {s t : List Char} (digits : Digits s) (more : AllDigits t) : Digits (s ++ t) :=
  ⟨List.append_ne_nil_of_left_ne_nil digits.nonempty t, digits.all.append more⟩

theorem Digits.append_left {s t : List Char} (digits : Digits t) (more : AllDigits s) : Digits (s ++ t) :=
  ⟨List.append_ne_nil_of_right_ne_nil s digits.nonempty, more.append digits.all⟩

theorem digits_zero : Digits ['0'] :=
  ⟨List.cons_ne_nil _ _, allDigits_replicate_zero 1⟩

theorem digits_toDigits (n : Nat) : Digits (Nat.toDigits 10 n) :=
  ⟨Nat.toDigits_ne_nil, allDigits_toDigits n⟩

theorem Digits.numeral {s : List Char} (digits : Digits s) : Numeral s := by
  simpa using Numeral.parts digits .absent .absent

theorem Digits.numeral_fraction {whole fraction : List Char} (digits : Digits whole) (digits' : Digits fraction) :
    Numeral (whole ++ '.' :: fraction) := by
  simpa using Numeral.parts digits (.present digits') .absent

theorem exponentPart_exponentText (e : Int) : ExponentPart ('e' :: exponentText e) := by
  have sign : (if e < 0 then '-' else '+') = '+' ∨ (if e < 0 then '-' else '+') = '-' := by
    split
    · exact Or.inr rfl
    · exact Or.inl rfl
  unfold exponentText
  refine .signed sign ?_
  split
  · exact (digits_toDigits _).append_left (s := ['0']) (allDigits_replicate_zero 1)
  · exact digits_toDigits _

theorem Numeral.begins {s : List Char} (numeral : Numeral s) : ∃ c rest, s = c :: rest ∧ c.isDigit = true := by
  obtain ⟨whole, _, _⟩ := numeral
  obtain ⟨c, rest, rfl⟩ := List.exists_cons_of_ne_nil whole.nonempty
  exact ⟨c, _, rfl, whole.all c List.mem_cons_self⟩

namespace Decimal

variable {d : Decimal}

theorem numeral_positional (digits : Digits d.digits) : Numeral d.positional := by
  unfold positional
  split
  · exact digits_zero.numeral_fraction (digits.append_left (allDigits_replicate_zero _))
  · rename_i raised
    simp only
    split
    · exact (digits.append_right (allDigits_replicate_zero _)).numeral_fraction digits_zero
    · rename_i long
      refine Digits.numeral_fraction ⟨fun none => ?_, digits.all.take _⟩ ⟨fun none => ?_, digits.all.drop _⟩
      · rcases List.take_eq_nil_iff.1 none with zero | empty
        · omega
        · exact digits.nonempty empty
      · exact long (List.drop_eq_nil_iff.1 none)

theorem numeral_scientific (digits : Digits d.digits) : Numeral d.scientific := by
  have exponent := exponentPart_exponentText (d.point - 1)
  have single {digit : Char} {rest : List Char} (row : d.digits = digit :: rest) : Digits [digit] :=
    ⟨List.cons_ne_nil _ _, fun c member => digits.all c (row ▸ List.mem_singleton.1 member ▸ List.mem_cons_self)⟩
  match row : d.digits with
  | [] => exact absurd row digits.nonempty
  | [digit] =>
    rw [scientific, row]
    exact .parts (single row) .absent exponent
  | digit :: second :: rest =>
    have later : Digits (second :: rest) :=
      ⟨List.cons_ne_nil _ _, fun c member => digits.all c (row ▸ List.mem_cons_of_mem _ member)⟩
    rw [scientific, row]
    exact .parts (single row) (.present later) exponent

theorem numeral_text (digits : Digits d.digits) : Numeral d.text := by
  unfold text
  split
  · exact numeral_positional digits
  · exact numeral_scientific digits

end Decimal

namespace Binary64

theorem numeral_magnitudeText {x : Binary64} (finite : x.isInfinite = false) : Numeral x.magnitudeText := by
  rcases magnitudeText_cases x with ⟨infinite, _⟩ | ⟨_, _, spelled⟩ | ⟨_, nonzero, spelled⟩
  · exact absurd (finite.symm.trans infinite) (by decide)
  · rw [spelled]
    exact digits_zero.numeral_fraction digits_zero
  · rw [spelled]
    exact Decimal.numeral_text ⟨shortest_digits_ne_nil nonzero, allDigits_shortest nonzero⟩

theorem numericLiteral_text {x : Binary64} (number : x.isNan = false) (finite : x.isInfinite = false) :
    NumericLiteral x.text.toList := by
  rw [text_eq number]
  split
  · exact .negative (numeral_magnitudeText finite)
  · exact .positive (numeral_magnitudeText finite)

end Binary64

theorem numericLiteral_repr (n : Int) : NumericLiteral n.repr.toList := by
  rw [Int.repr_eq_if]
  split
  · rw [Nat.toList_repr]
    exact .positive (digits_toDigits _).numeral
  · rw [String.toList_append, Nat.toList_repr]
    exact .negative (digits_toDigits _).numeral

/-- A word that can be read as a name, perhaps after a minus sign. -/
def IsBareWord (text : String) : Prop :=
  ∃ word, IsIdentifier word ∧ (text = word ∨ text = "-" ++ word)

/-- A numeral begins with a digit, and a name does not. -/
theorem Numeral.not_identifier {word : String} (numeral : Numeral word.toList) : ¬IsIdentifier word := by
  rintro ⟨c, rest, spelled, noDigit, _⟩
  obtain ⟨c', rest', begins, digit⟩ := numeral.begins
  rw [(List.cons.inj (spelled.symm.trans begins)).1, digit] at noDigit
  cases noDigit

theorem NumericLiteral.not_bareWord {text : String} (literal : NumericLiteral text.toList) : ¬IsBareWord text := by
  have noSign {word : String} (identifier : IsIdentifier word) {s : List Char} : word.toList ≠ '-' :: s := by
    intro spelled
    have letter := identifier.letters '-' (by rw [spelled]; exact List.mem_cons_self)
    exact absurd letter (by decide)
  rintro ⟨word, identifier, rfl | rfl⟩
  · generalize spelled : text.toList = s at literal
    cases literal with
    | positive numeral => exact (spelled ▸ numeral).not_identifier identifier
    | negative numeral => exact noSign identifier spelled
  · rw [String.toList_append] at literal
    generalize spelled : "-".toList ++ word.toList = s at literal
    cases literal with
    | positive numeral =>
      obtain ⟨c, rest, rfl, digit⟩ := numeral.begins
      rw [← (List.cons.inj spelled).1] at digit
      exact absurd digit (by decide)
    | negative numeral =>
      have rest : word.toList = _ := (List.cons.inj spelled).2
      exact (rest ▸ numeral).not_identifier identifier

namespace Scalar

/-- Of the numbers only doubles can be infinite, or not a number. -/
def isFinite : Scalar → Bool
  | .float x => !x.isNan && !x.isInfinite
  | _ => true

theorem numericLiteral_bareText {s : Scalar} (number : s.kind = .number) (finite : s.isFinite = true) :
    NumericLiteral s.bareText.toList := by
  cases s with
  | text s | bool b => cases number
  | int n => exact numericLiteral_repr n
  | float x =>
    rw [isFinite, Bool.and_eq_true, Bool.not_eq_true', Bool.not_eq_true'] at finite
    exact Binary64.numericLiteral_text finite.1 finite.2

theorem bareText_of_not_finite {s : Scalar} (infinite : s.isFinite = false) :
    s.bareText ∈ ["inf", "-inf", "nan"] := by
  cases s with
  | text s | bool b | int n => cases infinite
  | float x =>
    rw [bareText, Binary64.text]
    cases noNumber : x.isNan
    · have unbounded : x.isInfinite = true := by simpa [isFinite, noNumber] using infinite
      rw [if_neg Bool.false_ne_true, Binary64.magnitudeText, if_pos unbounded]
      cases x.isNegative <;> decide
    · rw [if_pos rfl]
      decide

theorem isBareWord_bareText {s : Scalar} (infinite : s.isFinite = false) : IsBareWord s.bareText := by
  have inf : IsIdentifier "inf" := ⟨'i', ['n', 'f'], rfl, by decide, by decide⟩
  have nan : IsIdentifier "nan" := ⟨'n', ['a', 'n'], rfl, by decide, by decide⟩
  have spelled := bareText_of_not_finite infinite
  rw [List.mem_cons, List.mem_cons, List.mem_singleton] at spelled
  rcases spelled with same | same | same <;> rw [same]
  · exact ⟨"inf", inf, Or.inl rfl⟩
  · exact ⟨"inf", inf, Or.inr rfl⟩
  · exact ⟨"nan", nan, Or.inl rfl⟩

theorem numericLiteral_bareText_iff {s : Scalar} (number : s.kind = .number) :
    (NumericLiteral s.bareText.toList ↔ s.isFinite = true) ∧ (IsBareWord s.bareText ↔ s.isFinite = false) := by
  cases finite : s.isFinite with
  | true =>
    have literal := numericLiteral_bareText number finite
    exact ⟨iff_of_true literal rfl, iff_of_false literal.not_bareWord (by decide)⟩
  | false =>
    have word := isBareWord_bareText finite
    exact ⟨iff_of_false (fun literal => literal.not_bareWord word) (by decide), iff_of_true word rfl⟩

end Scalar

/-- Stores write numbers bare. -/
theorem Store.scalarText_of_number (store : Store) (given : Option String) {s : Scalar}
    (number : s.kind = .number) : (store.dialect given).scalarText s = s.bareText := by
  cases s with
  | text s | bool b => cases number
  | int n | float x => cases store <;> rfl

theorem Dialect.valueText_eq_literals (d : Dialect) (v : Value) :
    d.valueText v =
      if v.isList then d.listOpen ++ String.intercalate d.listSeparator (v.scalars.map d.scalarText) ++ d.listClose
      else String.join (v.scalars.map d.scalarText) := by
  cases v with
  | scalar s => exact (String.empty_append).symm
  | list l => rfl

/-- Wherever a value of numbers is written, its numbers are numeric literals exactly if they are finite. Infinite
doubles and those that are not a number are bare words instead, which stores take for names. -/
theorem number_written_as_literal_iff_finite (store : Store) (given : Option String) (settings : Settings)
    {v : Value} (numbers : ∀ s ∈ v.scalars, s.kind = .number) :
    let d := store.dialect given
    let literals := v.scalars.map d.scalarText
    ((Operand.value v).write d settings).Writes
        (if v.isList then d.listOpen ++ String.intercalate d.listSeparator literals ++ d.listClose
        else String.join literals) ∧
      ∀ s ∈ v.scalars,
        (NumericLiteral (d.scalarText s).toList ↔ s.isFinite = true) ∧
          (IsBareWord (d.scalarText s) ↔ s.isFinite = false) := by
  refine ⟨?_, fun s member => ?_⟩
  · rw [Operand.write, ← Dialect.valueText_eq_literals]
    exact Writer.writes_append _
  · rw [store.scalarText_of_number given (numbers s member)]
    exact Scalar.numericLiteral_bareText_iff (numbers s member)

/-- The least positive double is written with a negative exponent. -/
theorem least_double_written_as_literal :
    let v : Value := .list ⟨[.int (-12), .float ⟨1, 0⟩, .float ⟨0xFFF0000000000000, 0⟩], by decide⟩
    (∀ s ∈ v.scalars, s.kind = .number) ∧
      ((Operand.value v).write (Store.milvus.dialect none) default).Writes "[-12, 5e-324, -inf]" ∧
      NumericLiteral "5e-324".toList ∧ IsBareWord "-inf" := by
  intro v
  have numbers : ∀ s ∈ v.scalars, s.kind = .number := by decide
  obtain ⟨writes, kinds⟩ := number_written_as_literal_iff_finite .milvus none default numbers
  have spelled : (Store.milvus.dialect none).valueText v = "[-12, 5e-324, -inf]" := by decide +kernel
  have least : (Store.milvus.dialect none).scalarText (.float ⟨1, 0⟩) = "5e-324" := by decide +kernel
  have infinity : (Store.milvus.dialect none).scalarText (.float ⟨0xFFF0000000000000, 0⟩) = "-inf" := by
    decide +kernel
  refine ⟨numbers, ?_, ?_, ?_⟩
  · rw [← spelled]
    exact writes
  · rw [← least]
    exact (kinds _ (by decide)).1.2 (by decide)
  · rw [← infinity]
    exact (kinds _ (by decide)).2.2 (by decide)

/-- In a condition an infinite bound is a name that nothing declares. -/
theorem infinity_written_as_word :
    let v : Value := .scalar (.float ⟨0x7FF0000000000000, 0⟩)
    let t := Operand.expression (.known .lt) (.key "f") (.value v)
    Value.ofDatum v.datum = .ok v ∧
      (Store.pgVector.dialect none).render default t = .ok "(\"metadata\"->>'f')::numeric < inf" ∧
      (Store.milvus.dialect none).render default t = .ok "metadata[\"f\"] < inf" ∧
      (Store.mariaDb.dialect none).render default t = .ok "JSON_VALUE(\x60metadata\x60, '$.f') < inf" ∧
      IsBareWord "inf" ∧ ¬NumericLiteral "inf".toList := by
  intro v t
  have word : IsBareWord "inf" := ⟨"inf", ⟨'i', ['n', 'f'], rfl, by decide, by decide⟩, Or.inl rfl⟩
  have written (store : Store) {text : String}
      (spelled : (store.dialect none).atomText default (.comparison .lt "f" v) = text) :
      (store.dialect none).render default t = .ok text :=
    spelled ▸ Dialect.render_of_writes (Operand.writes_comparison (store.isInfix none) rfl rfl "f" v)
  exact ⟨rfl, written .pgVector (by decide +kernel), written .milvus (by decide +kernel),
    written .mariaDb (by decide +kernel), word, fun literal => literal.not_bareWord word⟩

end FieldFilter
