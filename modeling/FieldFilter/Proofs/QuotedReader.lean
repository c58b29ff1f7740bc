import FieldFilter.Proofs.QuotedText
import FieldFilter.Proofs.Reader

namespace FieldFilter

/-- A character between quotes: two quotes are one, and a quote alone is none. -/
def quotedChar (quote : Char) : Reader Char :=
  ((Reader.char (· == quote)).behind [quote]).orElse (Reader.char (· != quote))

/-- A text between quotes, as in standard SQL. -/
def quotedText (quote : Char) : Reader (List Char) :=
  (quotedChar quote).enclosed quote quote

/-- Names in quotes with a dot between each two of them. -/
def identifierChain (quote : Char) : Reader (List (List Char)) :=
  (quotedText quote).separated ['.']

/-- What a character behind a backslash stands for in a string literal of MariaDB. In front of a wildcard
the backslash stays. -/
def mariaDbEscape (c : Char) : List Char :=
  if c = '0' then ['\x00']
  else if c = 'b' then ['\x08']
  else if c = 'n' then ['\n']
  else if c = 'r' then ['\r']
  else if c = 't' then ['\t']
  else if c = 'Z' then ['\x1a']
  else if c = '%' ∨ c = '_' then ['\\', c]
  else [c]

/-- What is written as one character in a string literal of MariaDB: an escape, or else a character as in
standard SQL. -/
def mariaDbChar : Reader (List Char) :=
  (((Reader.char fun _ => true).behind ['\\']).map mariaDbEscape).orElse ((quotedChar '\'').map fun c => [c])

/-- A string literal of MariaDB. -/
def mariaDbText : Reader (List Char) :=
  (mariaDbChar.enclosed '\'' '\'').map List.flatten

/-- A character of a quoted array element: a backslash gives the next character, whatever it is. -/
def elementChar : Reader Char :=
  ((Reader.char fun _ => true).behind ['\\']).orElse (Reader.char (· != '"'))

/-- A double-quoted text with backslash escapes. -/
def elementText : Reader (List Char) :=
  elementChar.enclosed '"' '"'

/-- A text-array literal of PostgreSQL whose elements are all quoted; there is at least one. -/
def arrayText : Reader (List (List Char)) :=
  ((elementText.separated [',']).behind ['\x7b']).before ['\x7d']

theorem quotedChar_reads (quote c : Char) : (quotedChar quote).Reads (fun _ => True) (doubled quote c) c := by
  by_cases isQuote : c = quote
  · rw [doubled, if_pos isQuote, isQuote]
    exact ((Reader.Reads.char (by simp)).behind [quote]).orElse_left _
  · rw [doubled, if_neg isQuote]
    exact (Reader.Reads.char (by simpa using isQuote)).orElse_right fun r =>
      Reader.behind_run_of_head_ne isQuote [] r

/-- A quote is no character unless another one follows. -/
theorem quotedChar_run_quote {quote : Char} {r : List Char} (alone : StartsOutside (· == quote) r) :
    (quotedChar quote).run (quote :: r) = none := by
  cases r with
  | nil => simp [quotedChar, Reader.orElse, Reader.behind, Reader.char, List.isPrefixOf?]
  | cons c rest =>
    have other : c ≠ quote := by simpa using alone
    simp [quotedChar, Reader.orElse, Reader.behind, Reader.char, List.isPrefixOf?, other]

theorem quotedText_reads (quote : Char) (s : List Char) :
    (quotedText quote).Reads (StartsOutside (· == quote)) ([quote] ++ s.flatMap (doubled quote) ++ [quote]) s :=
  Reader.Reads.enclosed_self (quotedChar_reads quote) (fun _ => quotedChar_run_quote) quote s

/-- A chain of quoted names is read up to where neither a quote nor a dot follows. -/
theorem identifierChain_reads {quote : String} {q : Char} (single : quote.toList = [q]) (other : q ≠ '.')
    (name : String) :
    (identifierChain q).Reads (StartsOutside fun c => c == q || c == '.') (quotedIdentifier name quote).toList
      (splitDots name.toList) := by
  simp only [quotedIdentifier, String.toList_ofList, single, quoteChain, doubleQuotes_singleton]
  refine Reader.Reads.separated (quotedText_reads q) (fun r => ?_) (fun r outside => ?_) (fun r outside => ?_)
    (splitDots_ne_nil _)
  · simpa using other.symm
  · intro c first
    exact (Bool.or_eq_false_iff.1 (outside c first)).1
  · cases r with
    | nil => exact Reader.run_nil _
    | cons c rest =>
      have neither := Bool.or_eq_false_iff.1 (startsOutside_cons.1 outside)
      exact Reader.behind_run_of_head_ne (by simpa using neither.2) [] rest

/-- A chain of quoted parts ends where neither a quote nor a dot follows. -/
theorem readsBack_quotedIdentifier {quote : String} {q : Char} (single : quote.toList = [q]) (other : q ≠ '.') :
    ReadsBack (fun _ => True) (StartsOutside fun c => c == q || c == '.')
      (fun name => (quotedIdentifier name quote).toList) id :=
  (Reader.Reads.readsBack fun name _ => identifierChain_reads single other name).tells fun _ _ _ _ same =>
    String.toList_inj.1 (splitDots_injective same)

theorem stringLiteral_reads (s : String) :
    (quotedText '\'').Reads (StartsOutside (· == '\'')) (stringLiteral s false).toList s.toList := by
  rw [stringLiteral, String.toList_ofList, singleQuoted_eq]
  exact quotedText_reads '\'' s.toList

/-- How a character is written between the quotes of a MariaDB literal. -/
def mariaDbSpelling (c : Char) : List Char :=
  if c = '\\' then ['\\', '\\'] else doubled '\'' c

theorem mariaDbChar_reads (c : Char) : mariaDbChar.Reads (fun _ => True) (mariaDbSpelling c) [c] := by
  by_cases backslash : c = '\\'
  · rw [mariaDbSpelling, if_pos backslash, backslash]
    exact (((Reader.Reads.char rfl).behind ['\\']).map mariaDbEscape).orElse_left _
  · rw [mariaDbSpelling, if_neg backslash]
    refine ((quotedChar_reads '\'' c).map fun c => [c]).orElse_right fun r => ?_
    obtain ⟨d, rest, begins, differ⟩ : ∃ d rest, doubled '\'' c = d :: rest ∧ d ≠ '\\' := by
      by_cases isQuote : c = '\''
      · exact ⟨'\'', ['\''], by rw [doubled, if_pos isQuote], by decide⟩
      · exact ⟨c, [], by rw [doubled, if_neg isQuote], backslash⟩
    rw [begins, List.cons_append]
    simp only [Reader.map, Reader.decode, Reader.behind_run_of_head_ne differ, Option.bind_none]

theorem mariaDbChar_run_quote {r : List Char} (alone : StartsOutside (· == '\'') r) :
    mariaDbChar.run ('\'' :: r) = none := by
  have noEscape : (((Reader.char fun _ => true).behind ['\\']).map mariaDbEscape).run ('\'' :: r) = none := by
    simp only [Reader.map, Reader.decode, Reader.behind_run_of_head_ne (show '\'' ≠ '\\' by decide),
      Option.bind_none]
  rw [mariaDbChar, Reader.orElse_run_of_none noEscape]
  simp only [Reader.map, Reader.decode, quotedChar_run_quote alone, Option.bind_none]

theorem doubleBackslashes_doubled (s : List Char) :
    (doubleBackslashes s).flatMap (doubled '\'') = s.flatMap mariaDbSpelling := by
  rw [doubleBackslashes, List.flatMap_assoc]
  refine congrArg (List.flatMap · s) (funext fun c => ?_)
  by_cases backslash : c = '\\'
  · rw [if_pos backslash, mariaDbSpelling, if_pos backslash]
    decide
  · rw [if_neg backslash, mariaDbSpelling, if_neg backslash, List.flatMap_singleton]

theorem mariaDbText_reads (s : String) :
    mariaDbText.Reads (StartsOutside (· == '\'')) (stringLiteral s true).toList s.toList := by
  have reads := Reader.Reads.enclosed mariaDbChar_reads (fun _ => mariaDbChar_run_quote) '\'' s.toList
  rw [stringLiteral, String.toList_ofList, singleQuoted_eq, if_pos rfl, doubleBackslashes_doubled]
  have whole := reads.map List.flatten
  rw [← List.flatMap_def, List.flatMap_singleton'] at whole
  exact whole

/-- A string literal ends at its closing quote, whatever the text is. -/
theorem readsBack_stringLiteral (escapeBackslash : Bool) :
    ReadsBack (fun _ => True) (StartsOutside (· == '\''))
      (fun s => (stringLiteral s escapeBackslash).toList) id := by
  have contents (s t : String) (_ : True) (_ : True) (same : s.toList = t.toList) : s = t := String.toList_inj.1 same
  cases escapeBackslash with
  | false => exact (Reader.Reads.readsBack fun s _ => stringLiteral_reads s).tells contents
  | true => exact (Reader.Reads.readsBack fun s _ => mariaDbText_reads s).tells contents

theorem elementChar_reads (c : Char) : elementChar.Reads (fun _ => True) (arrayChar c) c := by
  by_cases escaped : c = '\\' ∨ c = '"'
  · rw [arrayChar, if_pos escaped]
    exact ((Reader.Reads.char rfl).behind ['\\']).orElse_left _
  · rw [arrayChar, if_neg escaped]
    rw [not_or] at escaped
    exact (Reader.Reads.char (by simpa using escaped.2)).orElse_right fun r =>
      Reader.behind_run_of_head_ne escaped.1 [] r

theorem elementChar_run_quote (r : List Char) : elementChar.run ('"' :: r) = none := by
  rw [elementChar, Reader.orElse_run_of_none (Reader.behind_run_of_head_ne (by decide) [] r)]
  exact Reader.char_run_of_not (by decide) r

theorem elementText_reads (s : List Char) : elementText.Reads (fun _ => True) (arrayElement s) s :=
  Reader.Reads.enclosed_self elementChar_reads (fun r _ => elementChar_run_quote r) '"' s

theorem arrayText_reads {parts : List (List Char)} (some : parts ≠ []) :
    arrayText.Reads (fun _ => True) (arrayLiteral parts) parts := by
  have row : (elementText.separated [',']).Reads (['\x7d'] <+: ·) (List.intercalate [','] (parts.map arrayElement))
      parts := by
    refine Reader.Reads.separated elementText_reads (fun _ => trivial) (fun _ _ => trivial) ?_ some
    rintro r ⟨rest, rfl⟩
    exact Reader.behind_run_of_head_ne (by decide) [] rest
  exact (row.behind ['\x7b']).before

/-- The names in an array literal cannot break out of it. -/
theorem readsBack_arrayLiteral : ReadsBack (· ≠ []) (fun _ => True) arrayLiteral id :=
  Reader.Reads.readsBack fun _ some => arrayText_reads some

end FieldFilter
