import FieldFilter.Proofs.PgVectorText

namespace FieldFilter

namespace Dialect.PgVector

/-- No base column is a dotted name. -/
theorem isBaseColumn_of_nested {name : String} (nested : '.' ∈ name.toList) : isBaseColumn name = false := by
  have dotless : ∀ base ∈ baseColumns, '.' ∉ base.toList := by decide
  exact Bool.eq_false_iff.2 fun base => dotless name (List.contains_iff_mem.1 base) nested

theorem pathLiteral_read (name : String) :
    arrayText.whole (pathLiteral name).toList = some (splitDots name.toList) := by
  rw [pathLiteral, String.toList_ofList]
  exact (arrayText_reads (splitDots_ne_nil _)).whole trivial

theorem fieldText_nested (column : Option String) (settings : Settings) {name : String}
    (nested : '.' ∈ name.toList) :
    fieldText column settings name = quotedIdentifier (metadataColumn column settings) "\"" ++ " #>> " ++
      stringLiteral (pathLiteral name) false := by
  rw [fieldText_member column settings (isBaseColumn_of_nested nested), memberText,
    if_pos (List.contains_iff_mem.2 nested), String.append_assoc]

/-- What stands behind the path operator is a string literal, in front of whatever does not begin with a quote;
what it says is an array literal; and its elements are the parts of the name between the dots. -/
theorem nested_path_survives_both_quotings (column : Option String) (settings : Settings) {name : String}
    (nested : '.' ∈ name.toList) :
    ∃ operand path : String,
      fieldText column settings name =
        quotedIdentifier (metadataColumn column settings) "\"" ++ " #>> " ++ operand ∧
      (quotedText '\'').Reads (StartsOutside (· == '\'')) operand.toList path.toList ∧
      arrayText.whole path.toList = some (splitDots name.toList) :=
  ⟨stringLiteral (pathLiteral name) false, pathLiteral name, fieldText_nested column settings nested,
    stringLiteral_reads _, pathLiteral_read name⟩

/-- Quotes of both kinds, a backslash, braces, a comma and an empty part at the end. -/
theorem nested_path_of_quotes_and_braces :
    let name := "o'k\\.\x7b\",\x7d."
    '.' ∈ name.toList ∧ ∃ operand path : String,
      fieldText none default name = quotedIdentifier (metadataColumn none default) "\"" ++ " #>> " ++ operand ∧
      (quotedText '\'').Reads (StartsOutside (· == '\'')) operand.toList path.toList ∧
      arrayText.whole path.toList = some ["o'k\\".toList, "\x7b\",\x7d".toList, []] := by
  intro name
  have nested : '.' ∈ name.toList := by decide
  have parts : splitDots name.toList = ["o'k\\".toList, "\x7b\",\x7d".toList, []] := by decide
  obtain ⟨operand, path, written, literal, array⟩ := nested_path_survives_both_quotings none default nested
  rw [parts] at array
  exact ⟨nested, operand, path, written, literal, array⟩

end Dialect.PgVector

end FieldFilter
