namespace FieldFilter

/-- Writes every occurrence of the quote twice. Occurrences are found from the left and do not
overlap; the first `pending` characters belong to an occurrence that is already written once. -/
def doubleQuotes (quote : List Char) : Nat → List Char → List Char
  | _, [] => []
  | pending + 1, c :: rest => c :: doubleQuotes quote pending rest
  | 0, c :: rest =>
    if quote.isPrefixOf (c :: rest) then
      quote ++ c :: doubleQuotes quote (quote.length - 1) rest
    else
      c :: doubleQuotes quote 0 rest

/-- The parts of a text between its dots; a text without a dot is its own single part. -/
def splitDots : List Char → List (List Char)
  | [] => [[]]
  | c :: rest =>
    if c = '.' then [] :: splitDots rest
    else
      match splitDots rest with
      | [] => [[c]]
      | part :: parts => (c :: part) :: parts

/-- A chain of quoted parts, one for each part between dots. -/
def quoteChain (quote name : List Char) : List Char :=
  List.intercalate ['.'] ((splitDots name).map fun part => quote ++ doubleQuotes quote 0 part ++ quote)

/-- A literal in single quotes with every single quote written twice. -/
def singleQuoted (s : List Char) : List Char :=
  '\'' :: s.flatMap (fun c => if c = '\'' then ['\'', '\''] else [c]) ++ ['\'']

/-- Every backslash written twice. -/
def doubleBackslashes (s : List Char) : List Char :=
  s.flatMap fun c => if c = '\\' then ['\\', '\\'] else [c]

/-- A double-quoted array element: a backslash goes before every backslash and every double quote. -/
def arrayElement (s : List Char) : List Char :=
  '"' :: s.flatMap (fun c => if c = '\\' ∨ c = '"' then ['\\', c] else [c]) ++ ['"']

/-- An array literal in braces. -/
def arrayLiteral (parts : List (List Char)) : List Char :=
  '\x7b' :: List.intercalate [','] (parts.map arrayElement) ++ ['\x7d']

/-- The path of member names that a dotted field name stands for. -/
def pathSegments (name : String) : List String :=
  (splitDots name.toList).map String.ofList

/-- A dotted name with each part in quotes. -/
def quotedIdentifier (name : String) (quote : String) : String :=
  String.ofList (quoteChain quote.toList name.toList)

/-- A text as a string literal. Where a store reads backslashes as escapes, they are doubled too. -/
def stringLiteral (s : String) (escapeBackslash : Bool) : String :=
  String.ofList (singleQuoted (if escapeBackslash then doubleBackslashes s.toList else s.toList))

theorem splitDots_ne_nil (s : List Char) : splitDots s ≠ [] := by
  cases s with
  | nil => simp [splitDots]
  | cons c rest =>
    simp only [splitDots]
    split
    · simp
    · split <;> simp

end FieldFilter
