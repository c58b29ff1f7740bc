import FieldFilter.Dialect.Store
import FieldFilter.Proofs.DoubleText
import FieldFilter.Proofs.QuotedText

namespace FieldFilter

theorem mem_repr {n : Int} {c : Char} (member : c ∈ n.repr.toList) : c.isDigit = true ∨ c = '-' := by
  rw [Int.repr_eq_if] at member
  split at member
  · rw [Nat.toList_repr] at member
    exact Or.inl (allDigits_toDigits _ c member)
  · rw [String.toList_append, Nat.toList_repr] at member
    rcases List.mem_append.1 member with sign | digit
    · exact Or.inr (List.mem_singleton.1 sign)
    · exact Or.inl (allDigits_toDigits _ c digit)

theorem repr_injective {m n : Int} (same : m.repr = n.repr) : m = n := by
  have unsigned (k : Nat) (rest : List Char) : Nat.toDigits 10 k ≠ '-' :: rest := by
    intro begins
    have digit := allDigits_toDigits k '-' (by rw [begins]; exact List.mem_cons_self)
    exact absurd digit (by decide)
  have read {j k : Nat} (digits : Nat.toDigits 10 j = Nat.toDigits 10 k) : j = k := by
    rw [← Nat.ofDigitChars_ten_toDigits (n := j), digits, Nat.ofDigitChars_ten_toDigits]
  have letters := congrArg String.toList same
  rw [Int.repr_eq_if, Int.repr_eq_if] at letters
  split at letters <;> split at letters <;>
    simp only [String.toList_append, Nat.toList_repr] at letters
  · have equal := read letters
    omega
  · exact absurd letters (unsigned _ _)
  · exact absurd letters.symm (unsigned _ _)
  · have equal := read (List.cons.inj letters).2
    omega

namespace Scalar

def isNan : Scalar → Bool
  | .float x => x.isNan
  | _ => false

/-- A scalar without what its text does not show: the serial number of a double. -/
def unnumbered : Scalar → Scalar
  | .float x => .float ⟨x.bits, 0⟩
  | s => s

/-- A truth value as a text. -/
def spelledOut : Scalar → Scalar
  | .bool b => .text (if b then "true" else "false")
  | s => s

/-- Texts between quotes, other scalars bare. -/
def textWith (quoted : String → String) : Scalar → String
  | .text s => quoted s
  | s => s.bareText

/-- The characters of scalars that are written bare. -/
def isBareLetter (c : Char) : Bool :=
  c.isAlphanum || ['.', '+', '-'].contains c

theorem isBareLetter_of_isDigit {c : Char} (digit : c.isDigit = true) : isBareLetter c = true := by
  simp [isBareLetter, Char.isAlphanum, digit]

theorem isBareLetter_of_isLetter {c : Char} (letter : Binary64.isLetter c = true) : isBareLetter c = true := by
  unfold Binary64.isLetter at letter
  rcases Bool.or_eq_true_iff.1 letter with digit | other
  · exact isBareLetter_of_isDigit digit
  · have letters : ['.', 'e', '+', '-', 'i', 'n', 'f'].all isBareLetter = true := by decide
    exact List.all_eq_true.1 letters c (by simpa using other)

def isBare : Scalar → Bool
  | .text _ => false
  | _ => true

theorem mem_bareText {s : Scalar} (bare : s.isBare = true) (number : s.isNan = false) {c : Char}
    (member : c ∈ s.bareText.toList) : isBareLetter c = true := by
  cases s with
  | text s => exact absurd bare (by simp [isBare])
  | bool b =>
    have letters : (bareText (.bool b)).toList.all isBareLetter = true := by cases b <;> decide
    exact List.all_eq_true.1 letters c member
  | int n =>
    rcases mem_repr member with digit | rfl
    · exact isBareLetter_of_isDigit digit
    · decide
  | float x => exact isBareLetter_of_isLetter (Binary64.mem_text number member)

/-- The text of a truth value has a letter that numbers do not have. -/
theorem letter_mem_bareText (b : Bool) :
    ∃ c ∈ (bareText (.bool b)).toList, c.isDigit = false ∧ c ≠ '-' ∧ Binary64.isLetter c = false := by
  cases b
  · exact ⟨'a', by decide⟩
  · exact ⟨'t', by decide⟩

theorem bareText_bool_ne_int (b : Bool) (n : Int) : bareText (.bool b) ≠ bareText (.int n) := by
  intro same
  obtain ⟨c, member, noDigit, noSign, _⟩ := letter_mem_bareText b
  rw [same] at member
  rcases mem_repr member with digit | sign
  · exact absurd (noDigit.symm.trans digit) (by decide)
  · exact noSign sign

theorem bareText_bool_ne_float (b : Bool) {x : Binary64} (number : x.isNan = false) :
    bareText (.bool b) ≠ bareText (.float x) := by
  intro same
  obtain ⟨c, member, _, _, noLetter⟩ := letter_mem_bareText b
  rw [same] at member
  exact absurd (noLetter.symm.trans (Binary64.mem_text number member)) (by decide)

theorem bareText_int_ne_float (n : Int) {x : Binary64} (number : x.isNan = false) :
    bareText (.int n) ≠ bareText (.float x) := by
  intro same
  obtain ⟨c, member, noDigit, noSign⟩ := Binary64.mark_mem_text number
  rw [show x.text = bareText (.int n) from same.symm] at member
  rcases mem_repr member with digit | sign
  · exact absurd (noDigit.symm.trans digit) (by decide)
  · exact noSign sign

/-- A bare text tells which scalar it stands for, and of what type it is. -/
theorem bareText_injective {s t : Scalar} (bare : s.isBare = true) (bare' : t.isBare = true)
    (number : s.isNan = false) (number' : t.isNan = false) (same : s.bareText = t.bareText) :
    s.unnumbered = t.unnumbered := by
  cases s with
  | text s => exact absurd bare (by simp [isBare])
  | bool b =>
    cases t with
    | text t => exact absurd bare' (by simp [isBare])
    | bool b' => cases b <;> cases b' <;> first | rfl | exact absurd same (by decide)
    | int n => exact absurd same (bareText_bool_ne_int b n)
    | float y => exact absurd same (bareText_bool_ne_float b number')
  | int n =>
    cases t with
    | text t => exact absurd bare' (by simp [isBare])
    | bool b => exact absurd same.symm (bareText_bool_ne_int b n)
    | int n' => exact congrArg Scalar.int (repr_injective same)
    | float y => exact absurd same (bareText_int_ne_float n number')
  | float x =>
    cases t with
    | text t => exact absurd bare' (by simp [isBare])
    | bool b => exact absurd same.symm (bareText_bool_ne_float b number)
    | int n => exact absurd same.symm (bareText_int_ne_float n number)
    | float y =>
      rw [unnumbered, unnumbered, Binary64.text_injective number number' same]

theorem bareText_ne_nil {s : Scalar} (bare : s.isBare = true) (number : s.isNan = false) :
    s.bareText.toList ≠ [] := by
  cases s with
  | text s => exact absurd bare (by simp [isBare])
  | bool b =>
    obtain ⟨c, member, _⟩ := letter_mem_bareText b
    exact List.ne_nil_of_mem member
  | int n =>
    have digits (k : Nat) : Nat.toDigits 10 k ≠ [] := Nat.toDigits_ne_nil
    show n.repr.toList ≠ []
    rw [Int.repr_eq_if]
    split <;> simp [digits]
  | float x =>
    obtain ⟨c, member, _⟩ := Binary64.mark_mem_text number
    exact List.ne_nil_of_mem member

theorem isText_or_isBare (s : Scalar) : (∃ text, s = .text text) ∨ s.isBare = true := by
  cases s <;> simp [isBare]

theorem textWith_of_isBare {quoted : String → String} {s : Scalar} (bare : s.isBare = true) :
    s.textWith quoted = s.bareText := by
  cases s with
  | text s => exact absurd bare (by simp [isBare])
  | bool b => rfl
  | int n => rfl
  | float x => rfl

variable {quoted : String → String} {quote : Char}

theorem textWith_begins (begins : ∀ s, ∃ rest, (quoted s).toList = quote :: rest) {s : Scalar}
    (number : s.isNan = false) :
    ∃ c rest, (s.textWith quoted).toList = c :: rest ∧ (c == quote || isBareLetter c) = true := by
  rcases s.isText_or_isBare with ⟨text, rfl⟩ | bare
  · obtain ⟨rest, spelled⟩ := begins text
    exact ⟨quote, rest, spelled, by simp⟩
  · obtain ⟨c, rest, spelled⟩ := List.exists_cons_of_ne_nil (bareText_ne_nil bare number)
    have letter := mem_bareText bare number (c := c) (by rw [spelled]; exact List.mem_cons_self)
    rw [textWith_of_isBare bare]
    exact ⟨c, rest, spelled, by simp [letter]⟩

/-- If quoted texts read back, so do scalars: a quote is no letter of a bare scalar. -/
theorem readsBack_textWith (unlike : isBareLetter quote = false)
    (begins : ∀ s, ∃ rest, (quoted s).toList = quote :: rest)
    (reads : ReadsBack (fun _ => True) (StartsOutside (· == quote)) (fun s => (quoted s).toList) id) :
    ReadsBack (fun s => s.isNan = false) (StartsOutside fun c => c == quote || isBareLetter c)
      (fun s => (s.textWith quoted).toList) unnumbered := by
  have words : ReadsBack (fun s : Scalar => s.isBare = true ∧ s.isNan = false) (StartsOutside isBareLetter)
      (fun s => s.bareText.toList) unnumbered :=
    .of_words (fun s given c member => mem_bareText given.1 given.2 member) fun s t given given' same =>
      bareText_injective given.1 given'.1 given.2 given'.2 (String.toList_inj.1 same)
  have noQuote {r : List Char} (outside : StartsOutside (fun c => c == quote || isBareLetter c) r) :
      StartsOutside (· == quote) r ∧ StartsOutside isBareLetter r := by
    constructor <;> intro c first <;> have neither := outside c first <;>
      simp only [Bool.or_eq_false_iff] at neither
    · exact neither.1
    · exact neither.2
  have apart {text : String} {t : Scalar} {r s : List Char} (bare : t.isBare = true) (number : t.isNan = false) :
      (quoted text).toList ++ r ≠ t.bareText.toList ++ s := by
    intro same
    obtain ⟨rest, spelled⟩ := begins text
    obtain ⟨c, rest', spelled'⟩ := List.exists_cons_of_ne_nil (bareText_ne_nil bare number)
    have letter := mem_bareText bare number (c := c) (by rw [spelled']; exact List.mem_cons_self)
    rw [spelled, spelled'] at same
    rw [← (List.cons.inj same).1, unlike] at letter
    exact absurd letter (by decide)
  intro a b r s number number' atLeft atRight same
  -- The first character tells texts from bare scalars, and then each kind reads back by itself.
  rcases a.isText_or_isBare with ⟨text, rfl⟩ | bare <;> rcases b.isText_or_isBare with ⟨text', rfl⟩ | bare'
  · obtain ⟨equal, rests⟩ := reads trivial trivial (noQuote atLeft).1 (noQuote atRight).1 same
    exact ⟨congrArg Scalar.text equal, rests⟩
  · simp only [textWith_of_isBare bare'] at same
    exact absurd same (apart bare' number')
  · simp only [textWith_of_isBare bare] at same
    exact absurd same.symm (apart bare number)
  · simp only [textWith_of_isBare bare, textWith_of_isBare bare'] at same
    exact words ⟨bare, number⟩ ⟨bare', number'⟩ (noQuote atLeft).2 (noQuote atRight).2 same

end Scalar

inductive Contents
  | scalar (s : Scalar)
  | list (items : List Scalar)
deriving DecidableEq

namespace Value

/-- What a value holds, as far as it is known of its scalars. -/
def contents (known : Scalar → Scalar) : Value → Contents
  | .scalar s => .scalar (known s)
  | .list l => .list (l.items.map known)

def AllNumbers (v : Value) : Prop :=
  ∀ s ∈ v.scalars, s.isNan = false

end Value

namespace Dialect

/-- How a dialect writes values, so that they read back: scalars begin with a character of their own
class, and the brackets and separators of lists are outside of it. Of a scalar a reader learns what is
`known`. -/
structure SpellsValues (d : Dialect) (p : Char → Bool) (known : Scalar → Scalar) : Prop where
  opening : ∃ c, d.listOpen.toList = [c] ∧ p c = false
  closing : ∃ c, d.listClose.toList = [c] ∧ p c = false ∧ c ≠ ','
  separator : d.listSeparator.toList = [',', ' ']
  comma : p ',' = false
  begins : ∀ s : Scalar, s.isNan = false → ∃ c rest, (d.scalarText s).toList = c :: rest ∧ p c = true
  scalar : ReadsBack (fun s => s.isNan = false) (StartsOutside p) (fun s => (d.scalarText s).toList) known

variable {d : Dialect} {p : Char → Bool} {known : Scalar → Scalar}

theorem SpellsValues.readsBack_items (spells : d.SpellsValues p known) :
    ReadsBack (fun l : List Scalar => ∀ s ∈ l, s.isNan = false)
      (fun r => ∃ s, r = d.listClose.toList ++ s ∧ StartsOutside p s)
      (fun l => List.intercalate d.listSeparator.toList (l.map fun s => (d.scalarText s).toList))
      (List.map known) := by
  obtain ⟨close, closes, outside, noComma⟩ := spells.closing
  rw [spells.separator, closes]
  refine spells.scalar.intercalate ?_ (fun r => ?_) ?_ ?_
  · rintro r ⟨s, rfl, -⟩
    exact startsOutside_cons.2 outside
  · exact startsOutside_cons.2 spells.comma
  · rintro a r number ⟨s, same, -⟩
    obtain ⟨c, rest, spelled, inside⟩ := spells.begins a number
    simp only [spelled] at same
    rw [(List.cons.inj same).1, outside] at inside
    exact absurd inside (by decide)
  · rintro r ⟨s, same, -⟩
    exact noComma (List.cons.inj same).1.symm

theorem valueText_list (d : Dialect) (l : ScalarList) :
    (d.valueText (.list l)).toList = d.listOpen.toList ++
      List.intercalate d.listSeparator.toList (l.items.map fun s => (d.scalarText s).toList) ++
        d.listClose.toList := by
  simp only [valueText, String.toList_append, String.toList_intercalate, List.map_map, Function.comp_def]

/-- A value reads back: scalars are told from lists with one item. -/
theorem SpellsValues.readsBack_valueText (spells : d.SpellsValues p known) :
    ReadsBack Value.AllNumbers (StartsOutside p) (fun v => (d.valueText v).toList) (Value.contents known) := by
  obtain ⟨open', opens, outside⟩ := spells.opening
  have apart {s : Scalar} {l : ScalarList} {r t : List Char} (number : s.isNan = false) :
      (d.scalarText s).toList ++ r ≠ (d.valueText (.list l)).toList ++ t := by
    intro same
    obtain ⟨c, rest, spelled, inside⟩ := spells.begins s number
    rw [valueText_list, spelled, opens] at same
    rw [(List.cons.inj same).1, outside] at inside
    exact absurd inside (by decide)
  intro v w r s numbers numbers' atLeft atRight same
  cases v with
  | scalar a =>
    have number : a.isNan = false := numbers a List.mem_cons_self
    cases w with
    | scalar b =>
      obtain ⟨equal, rests⟩ := spells.scalar number (numbers' b List.mem_cons_self) atLeft atRight same
      exact ⟨congrArg Contents.scalar equal, rests⟩
    | list m => exact absurd same (apart number)
  | list l =>
    cases w with
    | scalar b => exact absurd same.symm (apart (numbers' b List.mem_cons_self))
    | list m =>
      simp only [valueText_list] at same
      obtain ⟨equal, rests⟩ := spells.readsBack_items.between d.listOpen.toList numbers numbers' atLeft atRight same
      exact ⟨congrArg Contents.list equal, rests⟩

end Dialect

end FieldFilter
