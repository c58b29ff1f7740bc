import FieldFilter.Proofs.QuotedReader

namespace FieldFilter

theorem startsOutside_iff_head?_ne {quote : Char} {r : List Char} :
    StartsOutside (· == quote) r ↔ r.head? ≠ some quote := by
  cases r with
  | nil => simp
  | cons c rest => simp

/-- Behind the closing quote of a text another quote makes one of both. -/
theorem quotedText_run_ne (quote : Char) (s rest found : List Char) :
    (quotedText quote).run ([quote] ++ s.flatMap (doubled quote) ++ [quote] ++ quote :: rest) ≠
      some (found, quote :: rest) := by
  have continued := quotedChar_reads quote quote rest trivial
  rw [doubled, if_pos rfl] at continued
  exact Reader.Reads.enclosed_run_ne (quotedChar_reads quote) continued quote s found

theorem mariaDbText_run_ne (s rest found : List Char) :
    mariaDbText.run (['\''] ++ s.flatMap mariaDbSpelling ++ ['\''] ++ '\'' :: rest) ≠
      some (found, '\'' :: rest) := by
  intro read
  obtain ⟨parts, inner, _⟩ := Reader.map_run_eq_some_iff.1 read
  exact Reader.Reads.enclosed_run_ne mariaDbChar_reads (mariaDbChar_reads '\'' rest trivial) '\'' s parts inner

/-- A string literal is read as the string up to its closing quote and no further, and no text behind it can change
that, unless the text begins with a quote. With backslashes doubled the same holds where a backslash begins an
escape. -/
theorem string_literal_ends_iff (s : String) (r : List Char) :
    ((quotedText '\'').run ((stringLiteral s false).toList ++ r) = some (s.toList, r) ↔ r.head? ≠ some '\'') ∧
      (mariaDbText.run ((stringLiteral s true).toList ++ r) = some (s.toList, r) ↔ r.head? ≠ some '\'') := by
  rw [← startsOutside_iff_head?_ne]
  refine ⟨⟨fun read c first => ?_, stringLiteral_reads s r⟩, ⟨fun read c first => ?_, mariaDbText_reads s r⟩⟩
  · obtain ⟨rest, rfl⟩ := List.head?_eq_some_iff.1 first
    refine beq_false_of_ne fun isQuote => ?_
    subst isQuote
    rw [stringLiteral, String.toList_ofList, singleQuoted_eq] at read
    exact quotedText_run_ne '\'' s.toList rest s.toList read
  · obtain ⟨rest, rfl⟩ := List.head?_eq_some_iff.1 first
    refine beq_false_of_ne fun isQuote => ?_
    subst isQuote
    rw [stringLiteral, String.toList_ofList, singleQuoted_eq, if_pos rfl, doubleBackslashes_doubled] at read
    exact mariaDbText_run_ne s.toList rest s.toList read

end FieldFilter
