import FieldFilter.Text.Blank

namespace FieldFilter

namespace EnvFile

/-- Every line end as a single line feed. -/
def unifyLineEnds : List Char → List Char
  | '\r' :: '\n' :: rest => '\n' :: unifyLineEnds rest
  | '\r' :: rest => '\n' :: unifyLineEnds rest
  | c :: rest => c :: unifyLineEnds rest
  | [] => []

/-- Blank characters inside a line. -/
def isSpace (c : Char) : Bool :=
  isBlank c && c != '\n'

/-- Splits a quoted text after its opening quote into the content, as it is written, and what follows
the closing quote. A backslash keeps the character after it inside. -/
def closeQuote (quote : Char) : List Char → Option (List Char × List Char)
  | [] => none
  | '\\' :: c :: rest => (closeQuote quote rest).map fun found => ('\\' :: c :: found.1, found.2)
  | c :: rest =>
    if c = quote then some ([], rest)
    else (closeQuote quote rest).map fun found => (c :: found.1, found.2)

/-- In single quotes only the quote and the backslash are escaped. -/
def unescapeSingle : List Char → List Char
  | '\\' :: '\\' :: rest => '\\' :: unescapeSingle rest
  | '\\' :: '\'' :: rest => '\'' :: unescapeSingle rest
  | c :: rest => c :: unescapeSingle rest
  | [] => []

/-- What the letter after a backslash stands for in double quotes. -/
def controlOf? : Char → Option Char
  | '\\' => some '\\'
  | '\'' => some '\''
  | '"' => some '"'
  | 'a' => some '\x07'
  | 'b' => some '\x08'
  | 'f' => some '\x0c'
  | 'n' => some '\n'
  | 'r' => some '\r'
  | 't' => some '\t'
  | 'v' => some '\x0b'
  | _ => none

/-- In double quotes control characters are escaped too. -/
def unescapeDouble : List Char → List Char
  | '\\' :: c :: rest =>
    match controlOf? c with
    | some control => control :: unescapeDouble rest
    | none => '\\' :: unescapeDouble (c :: rest)
  | c :: rest => c :: unescapeDouble rest
  | [] => []

/-- A bare value up to a comment, which starts with a hash sign after a blank. -/
def cutComment : List Char → List Char
  | [] => []
  | c :: rest =>
    if isBlank c && (rest.dropWhile isBlank).head? == some '#' then []
    else c :: cutComment rest

/-- A bare value on the rest of a line, without the blanks around it. -/
def bareValue (line : List Char) : List Char :=
  trimEnd ((cutComment line).dropWhile isBlank)

/-- The value at the start of a text and what follows it. Blanks in front of a quote are skipped. -/
def readValue (s : List Char) : Option (List Char × List Char) :=
  match s.dropWhile isSpace with
  | '\'' :: rest => (closeQuote '\'' rest).map fun found => (unescapeSingle found.1, found.2)
  | '"' :: rest => (closeQuote '"' rest).map fun found => (unescapeDouble found.1, found.2)
  | _ => some (bareValue (s.takeWhile (· != '\n')), s.dropWhile (· != '\n'))

/-- The name at the start of a text, bare or in single quotes, and what follows it. -/
def readName (s : List Char) : Option (List Char × List Char) :=
  match s with
  | '\'' :: rest =>
    let name := rest.takeWhile (· != '\'')
    match name, rest.dropWhile (· != '\'') with
    | _ :: _, _ :: after => some (name, after)
    | _, _ => none
  | _ =>
    let belongs (c : Char) := c != '=' && c != '#' && !isBlank c
    let name := s.takeWhile belongs
    if name.isEmpty then none else some (name, s.dropWhile belongs)

/-- Skips the word "export" in front of a name. -/
def skipExport (s : List Char) : List Char :=
  match s with
  | 'e' :: 'x' :: 'p' :: 'o' :: 'r' :: 't' :: c :: rest =>
    if isSpace c then rest.dropWhile isSpace else s
  | _ => s

/-- Skips blanks and a comment. -/
def skipComment (s : List Char) : List Char :=
  match s.dropWhile isSpace with
  | '#' :: rest => rest.dropWhile (· != '\n')
  | rest => rest

/-- Skips a comment and the end of the line; anything else there is a fault. -/
def endLine (s : List Char) : Option (List Char) :=
  match skipComment s with
  | [] => some []
  | '\n' :: rest => some rest
  | _ => none

/-- A name with its value, if it has one. -/
abbrev Binding := String × Option String

/-- Skips the rest of the line. -/
def skipLine (s : List Char) : List Char :=
  (s.dropWhile (· != '\n')).drop 1

/-- Reads the value after a name, if there is an equals sign. -/
def readAssignment (s : List Char) : Option (Option (List Char) × List Char) :=
  match s.dropWhile isSpace with
  | '=' :: rest => (readValue rest).map fun found => (some found.1, found.2)
  | rest => some (none, rest)

/-- Reads one line that is not blank, and what follows it. A line that cannot be read is skipped
from the place of the fault on. -/
def readLine (s : List Char) : Option Binding × List Char :=
  let start := skipExport s
  if start.head? == some '#' then
    (none, skipLine start)
  else
    match readName start with
    | none => (none, skipLine start)
    | some (name, rest) =>
      match readAssignment rest with
      | none => (none, skipLine rest)
      | some (value, after) =>
        match endLine after with
        | some next => (some (String.ofList name, value.map String.ofList), next)
        | none => (none, skipLine after)

theorem length_dropWhile_le (p : Char → Bool) (s : List Char) : (s.dropWhile p).length ≤ s.length :=
  (List.dropWhile_suffix p).length_le

theorem length_closeQuote {quote : Char} {s content after : List Char}
    (closed : closeQuote quote s = some (content, after)) : after.length < s.length := by
  fun_induction closeQuote quote s generalizing content with
  | case1 => simp at closed
  | case2 c rest ih =>
    obtain ⟨⟨inner, rest'⟩, found, same⟩ := Option.map_eq_some_iff.1 closed
    simp only [Prod.mk.injEq] at same
    have := ih (same.2 ▸ found)
    simp only [List.length_cons]
    omega
  | case3 rest =>
    simp only [Option.some.injEq, Prod.mk.injEq] at closed
    simp [← closed.2]
  | case4 c rest other notQuote ih =>
    obtain ⟨⟨inner, rest'⟩, found, same⟩ := Option.map_eq_some_iff.1 closed
    simp only [Prod.mk.injEq] at same
    have := ih (same.2 ▸ found)
    simp only [List.length_cons]
    omega

theorem length_readValue {s value after : List Char} (read : readValue s = some (value, after)) :
    after.length ≤ s.length := by
  have skipped := length_dropWhile_le isSpace s
  unfold readValue at read
  split at read
  · rename_i opened
    obtain ⟨⟨inner, rest⟩, found, same⟩ := Option.map_eq_some_iff.1 read
    have := length_closeQuote found
    simp only [Prod.mk.injEq] at same
    simp only [opened, List.length_cons] at skipped
    simp only [← same.2]
    omega
  · rename_i opened
    obtain ⟨⟨inner, rest⟩, found, same⟩ := Option.map_eq_some_iff.1 read
    have := length_closeQuote found
    simp only [Prod.mk.injEq] at same
    simp only [opened, List.length_cons] at skipped
    simp only [← same.2]
    omega
  · simp only [Option.some.injEq, Prod.mk.injEq] at read
    exact read.2 ▸ length_dropWhile_le _ s

theorem length_readAssignment {s after : List Char} {value : Option (List Char)}
    (read : readAssignment s = some (value, after)) : after.length ≤ s.length := by
  unfold readAssignment at read
  have skipped := length_dropWhile_le isSpace s
  split at read
  · rename_i rest found
    obtain ⟨⟨inner, rest'⟩, assigned, same⟩ := Option.map_eq_some_iff.1 read
    have inside := length_readValue assigned
    simp only [Prod.mk.injEq] at same
    simp only [found, List.length_cons] at skipped
    simp only [← same.2]
    omega
  · simp only [Option.some.injEq, Prod.mk.injEq] at read
    exact read.2 ▸ skipped

theorem length_readName {s name after : List Char} (read : readName s = some (name, after)) :
    after.length < s.length := by
  unfold readName at read
  split at read
  · rename_i rest
    have dropped := length_dropWhile_le (· != '\'') rest
    simp only at read
    split at read
    · rename_i found
      simp only [Option.some.injEq, Prod.mk.injEq] at read
      simp only [found, List.length_cons, read.2] at dropped
      simp only [List.length_cons]
      omega
    · simp at read
  · simp only at read
    split at read
    · simp at read
    · rename_i named
      simp only [Option.some.injEq, Prod.mk.injEq] at read
      have whole := congrArg List.length
        (List.takeWhile_append_dropWhile (p := fun c => c != '=' && c != '#' && !isBlank c) (l := s))
      rw [List.length_append, read.1, read.2] at whole
      rw [read.1] at named
      cases name with
      | nil => simp at named
      | cons c rest =>
        simp only [List.length_cons] at whole
        omega

theorem length_skipComment_le (s : List Char) : (skipComment s).length ≤ s.length := by
  have blank := length_dropWhile_le isSpace s
  unfold skipComment
  split
  · rename_i rest found
    have comment := length_dropWhile_le (· != '\n') rest
    simp only [found, List.length_cons] at blank
    omega
  · exact blank

theorem length_endLine {s next : List Char} (ended : endLine s = some next) : next.length ≤ s.length := by
  have skipped := length_skipComment_le s
  unfold endLine at ended
  split at ended
  · simp_all
  · rename_i rest found
    simp only [Option.some.injEq] at ended
    simp only [found, List.length_cons, ended] at skipped
    omega
  · simp at ended

theorem length_skipLine_le (s : List Char) : (skipLine s).length ≤ s.length := by
  have := length_dropWhile_le (· != '\n') s
  simp only [skipLine, List.length_drop]
  omega

theorem length_skipLine_lt {s : List Char} (some_left : s ≠ []) : (skipLine s).length < s.length := by
  cases s with
  | nil => exact absurd rfl some_left
  | cons c rest =>
    have := length_dropWhile_le (· != '\n') rest
    simp only [skipLine, List.length_drop, List.length_cons, List.dropWhile_cons]
    split
    · omega
    · simp

theorem skipExport_eq_or_length_lt (s : List Char) :
    skipExport s = s ∨ (skipExport s).length < s.length := by
  unfold skipExport
  split
  · rename_i c rest
    split
    · have := length_dropWhile_le isSpace rest
      right
      simp only [List.length_cons]
      omega
    · exact .inl rfl
  · exact .inl rfl

/-- Reading a line uses up at least one character. -/
theorem length_readLine {s : List Char} (some_left : s ≠ []) : (readLine s).2.length < s.length := by
  have exported := skipExport_eq_or_length_lt s
  have skipped : (skipLine (skipExport s)).length < s.length := by
    rcases exported with same | shorter
    · rw [same]
      exact length_skipLine_lt some_left
    · exact Nat.lt_of_le_of_lt (length_skipLine_le _) shorter
  have started : (skipExport s).length ≤ s.length := by
    rcases exported with same | shorter
    · exact Nat.le_of_eq (congrArg List.length same)
    · exact Nat.le_of_lt shorter
  unfold readLine
  simp only
  split
  · exact skipped
  · split
    · exact skipped
    · rename_i name rest named
      have afterName := length_readName named
      split
      · have := length_skipLine_le rest
        simp only
        omega
      · rename_i value after assigned
        have afterValue := length_readAssignment assigned
        split
        · rename_i next ended
          have := length_endLine ended
          simp only
          omega
        · have := length_skipLine_le after
          simp only
          omega

/-- The bindings of all lines in order. -/
def readLines (s : List Char) : List Binding :=
  let start := s.dropWhile isBlank
  if some_left : start = [] then []
  else
    have : (readLine start).2.length < s.length :=
      Nat.lt_of_lt_of_le (length_readLine some_left) (length_dropWhile_le isBlank s)
    (readLine start).1.toList ++ readLines (readLine start).2
termination_by s.length

/-- Puts a binding into a list; a name that is there already keeps its place and gets the new
value. -/
def put (binding : Binding) : List Binding → List Binding
  | [] => [binding]
  | other :: rest => if other.1 = binding.1 then binding :: rest else other :: put binding rest

/-- The bindings of a file of variables. Of lines with the same name the last one counts. -/
def bindings (content : String) : List Binding :=
  (readLines (unifyLineEnds content.toList)).foldl (fun found binding => put binding found) []

end EnvFile

end FieldFilter
