import FieldFilter.Text.Quoted
import FieldFilter.Proofs.ReadsBack

namespace FieldFilter

/-- A character, written twice if it is the quote. -/
def doubled (quote c : Char) : List Char :=
  if c = quote then [quote, quote] else [c]

theorem singleQuoted_eq (s : List Char) :
    singleQuoted s = ['\''] ++ s.flatMap (doubled '\'') ++ ['\''] := rfl

theorem splitDots_eq_splitOn (s : List Char) : splitDots s = s.splitOn '.' := by
  induction s with
  | nil => rfl
  | cons c rest ih =>
    rw [List.splitOn, List.splitOnP_cons_eq_if_modifyHead, ← List.splitOn, ← ih]
    by_cases dot : c = '.'
    · rw [splitDots, if_pos dot, if_pos (beq_iff_eq.2 dot)]
    · obtain ⟨first, others, parts⟩ := List.exists_cons_of_ne_nil (splitDots_ne_nil rest)
      rw [splitDots, if_neg dot, if_neg (mt beq_iff_eq.1 dot), parts]
      rfl

theorem intercalate_splitDots (s : List Char) : List.intercalate ['.'] (splitDots s) = s := by
  rw [splitDots_eq_splitOn, List.intercalate_splitOn]

theorem splitDots_injective {s t : List Char} (same : splitDots s = splitDots t) : s = t := by
  rw [← intercalate_splitDots s, same, intercalate_splitDots]

theorem flatMap_splitDots (s : List Char) : (splitDots s).flatMap ('.' :: ·) = '.' :: s := by
  match parts : splitDots s with
  | [] => exact absurd parts (splitDots_ne_nil s)
  | first :: rest =>
    have joined := intercalate_splitDots s
    rw [parts, intercalate_cons_eq_flatMap] at joined
    rw [List.flatMap_cons, List.cons_append]
    exact congrArg _ joined

theorem splitDots_of_dotless {s : List Char} (dotless : '.' ∉ s) : splitDots s = [s] := by
  rw [splitDots_eq_splitOn, List.splitOn, List.splitOnP_eq_singleton]
  intro c member
  exact beq_false_of_ne (ne_of_mem_of_not_mem member dotless)

theorem doubleQuotes_singleton (quote : Char) (s : List Char) :
    doubleQuotes [quote] 0 s = s.flatMap (doubled quote) := by
  induction s with
  | nil => rfl
  | cons c rest ih =>
    by_cases isQuote : c = quote
    · simp [doubleQuotes, doubled, isQuote, ih]
    · simp [doubleQuotes, doubled, isQuote, Ne.symm isQuote, ih]

def arrayChar (c : Char) : List Char :=
  if c = '\\' ∨ c = '"' then ['\\', c] else [c]

end FieldFilter
