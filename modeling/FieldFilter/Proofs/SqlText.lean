import FieldFilter.Proofs.FilterText
import FieldFilter.Proofs.QuotedReader

namespace FieldFilter

namespace Dialect

def sqlSymbol (op : Operator) : String :=
  (sqlSymbol? op).getD ""

theorem sqlSymbol_prefixFree (op op' : Operator) (compares : op.isLogical = false)
    (compares' : op'.isLogical = false) (begins : (sqlSymbol op).toList <+: (sqlSymbol op').toList) :
    op = op' := by
  revert compares compares' begins
  cases op <;> cases op' <;> decide

theorem readsBack_sqlSymbol :
    ReadsBack (fun op : Operator => op.isLogical = false) (fun _ => True) (fun op => (sqlSymbol op).toList) id :=
  .of_prefixFree sqlSymbol_prefixFree

theorem readsBack_sqlConnective :
    ReadsBack (fun _ => True) (fun _ => True) (fun c : Connective => (sqlSymbol c.operator).toList) id :=
  .of_prefixFree fun c k _ _ => by cases c <;> cases k <;> decide

/-- A symbol of a comparison begins with a space and a character that no path operator has. -/
theorem sqlSymbol_begins {op : Operator} (compares : op.isLogical = false) :
    ∃ c rest, (sqlSymbol op).toList = ' ' :: c :: rest ∧ c ≠ '#' := by
  cases op <;> first
    | exact absurd compares (by decide)
    | exact ⟨_, _, rfl, by decide⟩

theorem sqlConnective_begins (c : Connective) : ∃ rest, (sqlSymbol c.operator).toList = ' ' :: rest := by
  cases c <;> exact ⟨_, rfl⟩

def sqlTruth (truth : Bool) : String :=
  if truth then "TRUE" else "FALSE"

theorem readsBack_sqlTruth :
    ReadsBack (fun _ => True) Stops (fun truth => (sqlTruth truth).toList) id :=
  (ReadsBack.of_prefixFree fun truth truth' _ _ => by cases truth <;> cases truth' <;> decide).mono
    (fun _ _ => trivial) (fun _ _ => trivial)

theorem sqlTruth_ne (truth : Bool) {c : Char} {t : List Char} (begins : ∃ rest, t = c :: rest) (other : c ≠ 'T')
    (other' : c ≠ 'F') (r s : List Char) : (sqlTruth truth).toList ++ r ≠ t ++ s := by
  cases truth with
  | false => exact append_ne_of_heads ⟨_, rfl⟩ begins other'.symm r s
  | true => exact append_ne_of_heads ⟨_, rfl⟩ begins other.symm r s

def isSqlLetter (c : Char) : Bool :=
  c == '\'' || Scalar.isBareLetter c

theorem stringLiteral_begins (s : String) (escapeBackslash : Bool) :
    ∃ rest, (stringLiteral s escapeBackslash).toList = '\'' :: rest := by
  rw [stringLiteral, String.toList_ofList]
  exact ⟨_, rfl⟩

theorem quotedIdentifier_begins {quote : String} {q : Char} (single : quote.toList = [q]) (name : String) :
    ∃ rest, (quotedIdentifier name quote).toList = q :: rest := by
  rw [quotedIdentifier, String.toList_ofList, quoteChain, single]
  obtain ⟨part, others, parts⟩ := List.exists_cons_of_ne_nil (splitDots_ne_nil name.toList)
  rw [parts, List.map_cons, intercalate_cons_eq_flatMap]
  exact ⟨_, rfl⟩

/-- A dialect with lists in round brackets whose scalars are literals of string and bare scalars. -/
theorem spellsValues_of_literals {d : Dialect} {escapeBackslash : Bool} {f : Scalar → Scalar}
    (opens : d.listOpen = "(") (closes : d.listClose = ")") (separates : d.listSeparator = ", ")
    (scalars : ∀ s, d.scalarText s = (f s).textWith (stringLiteral · escapeBackslash))
    (numbers : ∀ s : Scalar, (f s).isNan = s.isNan) :
    d.SpellsValues isSqlLetter fun s => (f s).unnumbered := by
  have begins := fun s => stringLiteral_begins s escapeBackslash
  refine ⟨⟨'(', by rw [opens]; decide⟩, ⟨')', by rw [closes]; decide⟩, by rw [separates]; decide, by decide, ?_, ?_⟩
  · intro s number
    rw [scalars]
    exact Scalar.textWith_begins begins ((numbers s).trans number)
  · have reads := (Scalar.readsBack_textWith (by decide) begins (readsBack_stringLiteral escapeBackslash)).comap f
    simp only [scalars]
    exact reads.mono (fun s number => (numbers s).trans number) fun _ stops => stops

end Dialect

end FieldFilter
