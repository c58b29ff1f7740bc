namespace FieldFilter

/-- A set of characters, given by the first and the last code point of each of its runs. -/
abbrev CharRuns := List (Nat × Nat)

/-- Whether a character lies in one of the runs. -/
def CharRuns.has (runs : CharRuns) (c : Char) : Bool :=
  runs.any fun run => run.1 ≤ c.toNat && c.toNat ≤ run.2

theorem CharRuns.has_iff {runs : CharRuns} {c : Char} :
    runs.has c = true ↔ ∃ run ∈ runs, run.1 ≤ c.toNat ∧ c.toNat ≤ run.2 := by
  simp [CharRuns.has]

end FieldFilter
