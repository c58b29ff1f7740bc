import FieldFilter.Proofs.ShortestText

namespace FieldFilter

namespace Binary64

variable {x y : Binary64}

/-- The characters of doubles that are numbers. -/
def isLetter (c : Char) : Bool :=
  c.isDigit || ['.', 'e', '+', '-', 'i', 'n', 'f'].contains c

/-- The text of a magnitude: of an infinity, of zero, or the shortest decimal. -/
theorem magnitudeText_cases (x : Binary64) :
    x.isInfinite = true ∧ x.magnitudeText = ['i', 'n', 'f'] ∨
      x.isInfinite = false ∧ x.isZero = true ∧ x.magnitudeText = ['0', '.', '0'] ∨
      x.isInfinite = false ∧ x.isZero = false ∧ x.magnitudeText = x.shortest.text := by
  unfold magnitudeText
  cases x.isInfinite <;> cases x.isZero <;> simp

theorem pos_of_holds (nonzero : x.isZero = false) {q : ℚ} (inside : x.interval.Holds q) : 0 < q := by
  have quarter := x.quarter_pos
  have least : (1 : ℚ) ≤ x.significand := by exact_mod_cast significand_pos nonzero
  have gap := x.gapBelow_le
  have low : 0 < (4 * x.significand - x.gapBelow) * x.quarter := mul_pos (by linarith) quarter
  rcases low_le_of_holds nonzero inside with above | ⟨_, above⟩ <;> linarith

theorem shortest_digits_ne_nil (nonzero : x.isZero = false) : x.shortest.digits ≠ [] :=
  Decimal.digits_ne_nil (pos_of_holds nonzero (holds_shortest nonzero))

/-- The text of the magnitude of a finite double other than zero reads back as the double. -/
theorem holds_readDecimal (finite : x.isInfinite = false) (nonzero : x.isZero = false) :
    x.interval.Holds (readDecimal x.magnitudeText) := by
  have spelled : x.magnitudeText = x.shortest.text := by
    rw [magnitudeText, finite, nonzero]
    rfl
  rw [spelled, Decimal.readDecimal_text (allDigits_shortest nonzero) (shortest_digits_ne_nil nonzero)]
  exact holds_shortest nonzero

theorem mem_magnitudeText {c : Char} (member : c ∈ x.magnitudeText) : isLetter c = true := by
  unfold isLetter
  rcases magnitudeText_cases x with ⟨_, spelled⟩ | ⟨_, _, spelled⟩ | ⟨_, nonzero, spelled⟩ <;>
    rw [spelled] at member
  · have letters : ['i', 'n', 'f'].all isLetter = true := by decide
    exact List.all_eq_true.1 letters c member
  · have letters : ['0', '.', '0'].all isLetter = true := by decide
    exact List.all_eq_true.1 letters c member
  · rcases Decimal.mem_text (allDigits_shortest nonzero) member with digit | mark
    · simp [digit]
    · have letters : ['.', 'e', '+', '-'].all isLetter = true := by decide
      exact List.all_eq_true.1 letters c mark

/-- The text of a magnitude has a character that the texts of whole numbers do not have. -/
theorem mark_mem_magnitudeText (x : Binary64) :
    ∃ c ∈ x.magnitudeText, c.isDigit = false ∧ c ≠ '-' := by
  rcases magnitudeText_cases x with ⟨_, spelled⟩ | ⟨_, _, spelled⟩ | ⟨_, nonzero, spelled⟩ <;> rw [spelled]
  · exact ⟨'i', by decide⟩
  · exact ⟨'.', by decide⟩
  · rcases Decimal.mark_mem_text (shortest_digits_ne_nil nonzero) with point | exponent
    · exact ⟨'.', point, by decide⟩
    · exact ⟨'e', exponent, by decide⟩

/-- The text of a magnitude begins with a digit, or it is the text of an infinity. -/
theorem magnitudeText_begins (x : Binary64) :
    ∃ c rest, x.magnitudeText = c :: rest ∧
      (c = 'i' ∧ x.isInfinite = true ∨ c.isDigit = true ∧ x.isInfinite = false) := by
  rcases magnitudeText_cases x with ⟨infinite, spelled⟩ | ⟨finite, _, spelled⟩ | ⟨finite, nonzero, spelled⟩ <;>
    rw [spelled]
  · exact ⟨'i', _, rfl, Or.inl ⟨rfl, infinite⟩⟩
  · exact ⟨'0', _, rfl, Or.inr ⟨by decide, finite⟩⟩
  · obtain ⟨c, rest, begins, digit⟩ :=
      Decimal.text_begins (allDigits_shortest nonzero) (shortest_digits_ne_nil nonzero)
    exact ⟨c, rest, begins, Or.inr ⟨digit, finite⟩⟩

theorem magnitudeText_unsigned (x : Binary64) (rest : List Char) : x.magnitudeText ≠ '-' :: rest := by
  obtain ⟨c, tail, begins, kind⟩ := x.magnitudeText_begins
  rw [begins]
  intro same
  obtain ⟨rfl, _⟩ := List.cons.inj same
  rcases kind with ⟨letter, _⟩ | ⟨digit, _⟩
  · exact absurd letter (by decide)
  · exact absurd digit (by decide)

theorem bits_eq (signs : x.isNegative = y.isNegative) (exponents : x.exponentField = y.exponentField)
    (fractions : x.fraction = y.fraction) : x.bits = y.bits := by
  have boundX : x.bits.toNat < 2 ^ 64 := x.bits.toNat_lt
  have boundY : y.bits.toNat < 2 ^ 64 := y.bits.toNat_lt
  simp only [isNegative, decide_eq_decide] at signs
  simp only [exponentField, fraction] at exponents fractions
  apply UInt64.toNat_inj.1
  omega

theorem fields_eq (powers : x.power = y.power) (significands : x.significand = y.significand) :
    x.exponentField = y.exponentField ∧ x.fraction = y.fraction := by
  have boundX := x.fraction_lt
  have boundY := y.fraction_lt
  unfold power at powers
  unfold significand at significands
  split at significands <;> split at significands <;> omega

theorem isZero_iff : x.isZero = true ↔ x.exponentField = 0 ∧ x.fraction = 0 := by
  simp [isZero]

theorem isInfinite_iff : x.isInfinite = true ↔ x.exponentField = 2047 ∧ x.fraction = 0 := by
  simp [isInfinite]

theorem readDecimal_zero : readDecimal ['0', '.', '0'] = 0 := by
  simp [readDecimal, readFixed, readDigits, Nat.ofDigitChars_cons]

theorem isInfinite_congr (same : x.magnitudeText = y.magnitudeText) : x.isInfinite = y.isInfinite := by
  obtain ⟨c, rest, begins, kind⟩ := x.magnitudeText_begins
  obtain ⟨c', rest', begins', kind'⟩ := y.magnitudeText_begins
  rw [begins, begins'] at same
  obtain ⟨rfl, _⟩ := List.cons.inj same
  have letter : ('i' : Char).isDigit ≠ true := by decide
  rcases kind with ⟨isLetter, infinite⟩ | ⟨digit, finite⟩ <;>
    rcases kind' with ⟨isLetter', infinite'⟩ | ⟨digit', finite'⟩
  · rw [infinite, infinite']
  · exact absurd (isLetter ▸ digit') letter
  · exact absurd (isLetter' ▸ digit) letter
  · rw [finite, finite']

theorem isZero_congr (finite : x.isInfinite = false) (finite' : y.isInfinite = false)
    (same : x.magnitudeText = y.magnitudeText) : x.isZero = y.isZero := by
  have zeroText {z : Binary64} (finite : z.isInfinite = false) (zero : z.isZero = true) :
      readDecimal z.magnitudeText = 0 := by
    rw [magnitudeText, finite, zero]
    exact readDecimal_zero
  cases zero : x.isZero <;> cases zero' : y.isZero
  · rfl
  · have positive := pos_of_holds zero (holds_readDecimal finite zero)
    rw [same, zeroText finite' zero'] at positive
    exact absurd positive (lt_irrefl 0)
  · have positive := pos_of_holds zero' (holds_readDecimal finite' zero')
    rw [← same, zeroText finite zero] at positive
    exact absurd positive (lt_irrefl 0)
  · rfl

theorem magnitudeText_injective (same : x.magnitudeText = y.magnitudeText) :
    x.exponentField = y.exponentField ∧ x.fraction = y.fraction := by
  have infinities := isInfinite_congr same
  cases infinite : x.isInfinite with
  | true =>
    have infinite' := infinities.symm.trans infinite
    rw [isInfinite_iff] at infinite infinite'
    exact ⟨infinite.1.trans infinite'.1.symm, infinite.2.trans infinite'.2.symm⟩
  | false =>
    have finite' := infinities.symm.trans infinite
    have zeros := isZero_congr infinite finite' same
    cases zero : x.isZero with
    | true =>
      have zero' := zeros.symm.trans zero
      rw [isZero_iff] at zero zero'
      exact ⟨zero.1.trans zero'.1.symm, zero.2.trans zero'.2.symm⟩
    | false =>
      have nonzero' := zeros.symm.trans zero
      have inside := holds_readDecimal infinite zero
      rw [same] at inside
      obtain ⟨powers, significands⟩ := holds_unique zero nonzero' inside (holds_readDecimal finite' nonzero')
      exact fields_eq powers significands

theorem text_eq (number : x.isNan = false) :
    x.text.toList = if x.isNegative then '-' :: x.magnitudeText else x.magnitudeText := by
  simp only [text, number, Bool.false_eq_true, if_false, String.toList_ofList]

theorem mem_text (number : x.isNan = false) {c : Char} (member : c ∈ x.text.toList) : isLetter c = true := by
  rw [text_eq number] at member
  split at member
  · rcases List.mem_cons.1 member with rfl | inside
    · decide
    · exact mem_magnitudeText inside
  · exact mem_magnitudeText member

theorem mark_mem_text (number : x.isNan = false) : ∃ c ∈ x.text.toList, c.isDigit = false ∧ c ≠ '-' := by
  obtain ⟨c, member, mark⟩ := x.mark_mem_magnitudeText
  refine ⟨c, ?_, mark⟩
  rw [text_eq number]
  split
  · exact List.mem_cons_of_mem _ member
  · exact member

/-- Different doubles that are numbers have different texts; the zeros are told apart, too. -/
theorem text_injective (number : x.isNan = false) (number' : y.isNan = false) (same : x.text = y.text) :
    x.bits = y.bits := by
  have letters := congrArg String.toList same
  rw [text_eq number, text_eq number'] at letters
  cases negative : x.isNegative <;> cases negative' : y.isNegative <;>
    simp only [negative, negative', Bool.false_eq_true, if_false, if_true] at letters
  · obtain ⟨exponents, fractions⟩ := magnitudeText_injective letters
    exact bits_eq (negative.trans negative'.symm) exponents fractions
  · exact absurd letters (x.magnitudeText_unsigned _)
  · exact absurd letters.symm (y.magnitudeText_unsigned _)
  · obtain ⟨exponents, fractions⟩ := magnitudeText_injective (List.cons.inj letters).2
    exact bits_eq (negative.trans negative'.symm) exponents fractions

end Binary64

end FieldFilter
