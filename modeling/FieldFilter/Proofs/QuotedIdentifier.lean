import FieldFilter.Proofs.MariaDbText
import FieldFilter.Proofs.PgVectorText
import FieldFilter.Proofs.QuotedReader

namespace FieldFilter

theorem startsOutside_of_head?_ne {c d : Char} {r : List Char} (first : r.head? ≠ some c)
    (second : r.head? ≠ some d) : StartsOutside (fun x => x == c || x == d) r := by
  cases r with
  | nil => exact startsOutside_nil _
  | cons x rest => simp_all

theorem identifierChain_run {quote : String} {q : Char} (single : quote.toList = [q]) (noDot : q ≠ '.')
    (name : String) {r : List Char} (quoteless : r.head? ≠ some q) (dotless : r.head? ≠ some '.') :
    (identifierChain q).run ((quotedIdentifier name quote).toList ++ r) = some (name.toList.splitOn '.', r) := by
  rw [← splitDots_eq_splitOn]
  exact identifierChain_reads single noDot name r (startsOutside_of_head?_ne quoteless dotless)

theorem quotedIdentifier_injective {quote : String} {q : Char} (single : quote.toList = [q]) (noDot : q ≠ '.')
    {name name' : String} (same : quotedIdentifier name quote = quotedIdentifier name' quote) : name = name' :=
  (readsBack_quotedIdentifier single noDot).meaning_eq (startsOutside_nil _) trivial trivial
    (congrArg String.toList same)

/-- The column in which a field is looked up: each base column is one of its own, all other fields are in the
metadata. -/
def columnOf (column : Option String) (settings : Settings) (name : String) : String :=
  if isBaseColumn name then name else metadataColumn column settings

/-- Whatever the metadata column is called, its name is what is read of a reference as the name of a column. The
rest of the reference is left, and depends on the field alone. -/
def KeepsColumnQuoted (quote : Char) (columnReader : Reader (List (List Char)))
    (fieldText : Option String → Settings → String → String) : Prop :=
  ∀ name : String, ∃ rest : List Char, ∀ (column : Option String) (settings : Settings) (r : List Char),
    r.head? ≠ some quote → r.head? ≠ some '.' →
      columnReader.run ((fieldText column settings name).toList ++ r) =
        some ((columnOf column settings name).toList.splitOn '.', rest ++ r)

namespace Dialect

theorem PgVector.keepsColumnQuoted : KeepsColumnQuoted '"' (identifierChain '"') fieldText := by
  intro name
  cases base : isBaseColumn name with
  | true =>
    refine ⟨[], fun column settings r quoteless dotless => ?_⟩
    rw [fieldText_base column settings base, columnOf, if_pos base]
    exact identifierChain_run doubleQuote (by decide) name quoteless dotless
  | false =>
    refine ⟨(memberText name).toList, fun column settings r _ _ => ?_⟩
    rw [fieldText_member column settings base, columnOf, base, if_neg (by decide), String.toList_append,
      List.append_assoc, ← splitDots_eq_splitOn]
    exact identifierChain_reads doubleQuote (by decide) _ _ (memberText_outside name r)

namespace MariaDb

/-- The column at the front of a reference: alone, or behind the opening of the function that extracts from it. -/
def columnReader : Reader (List (List Char)) :=
  ((identifierChain '\x60').behind "JSON_VALUE(".toList).orElse (identifierChain '\x60')

theorem keepsColumnQuoted : KeepsColumnQuoted '\x60' columnReader fieldText := by
  intro name
  cases base : isBaseColumn name with
  | true =>
    refine ⟨[], fun column settings r quoteless dotless => ?_⟩
    obtain ⟨rest, begins⟩ := fieldText_base_begins column settings base
    rw [columnReader, Reader.orElse_run_of_none]
    · rw [fieldText_base column settings base, columnOf, if_pos base]
      exact identifierChain_run backtick (by decide) name quoteless dotless
    · rw [begins]
      exact Reader.behind_run_of_head_ne (by decide) _ _
  | false =>
    refine ⟨", ".toList ++ (stringLiteral ("$." ++ name) true).toList ++ [')'], fun column settings r _ _ => ?_⟩
    have identifier := identifierChain_reads backtick (by decide) (metadataColumn column settings)
    have read := ((identifier.behind "JSON_VALUE(".toList).orElse_left (identifierChain '\x60'))
      (", ".toList ++ (stringLiteral ("$." ++ name) true).toList ++ [')'] ++ r) (startsOutside_cons.2 (by decide))
    rw [fieldText_member column settings base, columnOf, base, if_neg (by decide), ← splitDots_eq_splitOn]
    simp only [String.toList_append, List.append_assoc] at read ⊢
    exact read

end MariaDb

end Dialect

/-- A name in quotes is read as its parts between the dots, and what stands behind it is left, unless that begins
with the quote or a dot. So different names have different identifiers, and the name of a column ends at its quotes
in the references of both stores that have such identifiers. -/
theorem quoted_identifier_reads_back {q : Char} (noDot : q ≠ '.') {r : List Char} (quoteless : r.head? ≠ some q)
    (dotless : r.head? ≠ some '.') (name : String) :
    (identifierChain q).run ((quotedIdentifier name (String.singleton q)).toList ++ r) =
        some (name.toList.splitOn '.', r) ∧
      (∀ name' : String,
        quotedIdentifier name' (String.singleton q) = quotedIdentifier name (String.singleton q) → name' = name) ∧
      KeepsColumnQuoted '"' (identifierChain '"') Dialect.PgVector.fieldText ∧
      KeepsColumnQuoted '\x60' Dialect.MariaDb.columnReader Dialect.MariaDb.fieldText := by
  have single : (String.singleton q).toList = [q] := String.toList_singleton q
  exact ⟨identifierChain_run single noDot name quoteless dotless,
    fun _ same => quotedIdentifier_injective single noDot same,
    Dialect.PgVector.keepsColumnQuoted, Dialect.MariaDb.keepsColumnQuoted⟩

/-- A run of quotes in front of a dot, a part that is a quote, an empty part, and columns that try to end the
reference and to add a condition of their own. -/
theorem quoted_identifier_of_quotes_and_empty_parts :
    let name := "a\x60\x60.\x60..b"
    let r := " = 1".toList
    let column := some "m\" = '' OR \"t.u"
    let column' := some "m\x60, '$') OR (\x60t"
    '\x60' ≠ '.' ∧ r.head? ≠ some '\x60' ∧ r.head? ≠ some '"' ∧ r.head? ≠ some '.' ∧
      (identifierChain '\x60').run ((quotedIdentifier name (String.singleton '\x60')).toList ++ r) =
        some (["a\x60\x60".toList, ['\x60'], [], ['b']], r) ∧
      (∃ rest, (identifierChain '"').run ((Dialect.PgVector.fieldText none default "lang").toList ++ r) =
          some (["metadata".toList], rest ++ r) ∧
        (identifierChain '"').run ((Dialect.PgVector.fieldText column default "lang").toList ++ r) =
          some (["m\" = '' OR \"t".toList, ['u']], rest ++ r)) ∧
      ∃ rest, Dialect.MariaDb.columnReader.run ((Dialect.MariaDb.fieldText none default "lang").toList ++ r) =
          some (["metadata".toList], rest ++ r) ∧
        Dialect.MariaDb.columnReader.run ((Dialect.MariaDb.fieldText column' default "lang").toList ++ r) =
          some (["m\x60, '$') OR (\x60t".toList], rest ++ r) := by
  intro name r column column'
  have noDot : '\x60' ≠ '.' := by decide
  have noTick : r.head? ≠ some '\x60' := by decide
  have noQuote : r.head? ≠ some '"' := by decide
  have dotless : r.head? ≠ some '.' := by decide
  have parts : name.toList.splitOn '.' = ["a\x60\x60".toList, ['\x60'], [], ['b']] := by decide
  have columnParts : (columnOf column default "lang").toList.splitOn '.' = ["m\" = '' OR \"t".toList, ['u']] := by
    decide
  have columnParts' : (columnOf column' default "lang").toList.splitOn '.' = ["m\x60, '$') OR (\x60t".toList] := by
    decide
  obtain ⟨read, _, pgVector, mariaDb⟩ := quoted_identifier_reads_back noDot noTick dotless name
  obtain ⟨rest, follows⟩ := pgVector "lang"
  obtain ⟨rest', follows'⟩ := mariaDb "lang"
  have injected := follows column default r noQuote dotless
  have injected' := follows' column' default r noTick dotless
  rw [parts] at read
  rw [columnParts] at injected
  rw [columnParts'] at injected'
  refine ⟨noDot, noTick, noQuote, dotless, read, ⟨rest, ?_, injected⟩, ⟨rest', ?_, injected'⟩⟩
  · exact follows none default r noQuote dotless
  · exact follows' none default r noTick dotless

end FieldFilter
