import FieldFilter.Text.Lowercase

namespace FieldFilter

namespace CapitalRun

/-- The first small letter of a run. -/
def smallFirst (run : CapitalRun) : Nat :=
  (run.first + run.shift).toNat

/-- The last small letter of a run. -/
def smallLast (run : CapitalRun) : Nat :=
  (run.last + run.shift).toNat

/-- None of the small letters of a run is a capital of the other one: they lie in front of it or behind it, or
between its capitals. -/
def avoids (run other : CapitalRun) : Bool :=
  Nat.blt run.smallLast other.first || Nat.blt other.last run.smallFirst ||
    other.step == 2 && (run.step == 2 || run.first == run.last) && (run.smallFirst - other.first) % 2 == 1

/-- The one capital whose small form is not a single letter. -/
def dotted : CapitalRun :=
  ⟨0x130, 0x130, 1, 0⟩

/-- The small letters of a run are no capitals themselves. -/
def settles (run : CapitalRun) : Bool :=
  Nat.blt 0 run.first && (dotted :: capitalRuns).all run.avoids

theorem has_iff {run : CapitalRun} {c : Char} :
    run.has c = true ↔ run.first ≤ c.toNat ∧ c.toNat ≤ run.last ∧ (c.toNat - run.first) % run.step = 0 := by
  simp [has, and_assoc]

theorem not_has_of_avoids {run other : CapitalRun} {c d : Char} (avoided : run.avoids other = true)
    (capital : run.has c = true) (small : d.toNat = (c.toNat + run.shift).toNat) : other.has d = false := by
  rw [Bool.eq_false_iff, ne_eq, has_iff]
  rw [has_iff] at capital
  simp only [avoids, smallFirst, smallLast, Bool.or_eq_true, Bool.and_eq_true, Nat.blt_eq, beq_iff_eq] at avoided
  rcases avoided with (before | behind) | ⟨⟨wide, alike⟩, odd⟩
  · omega
  · omega
  · rw [wide]
    rcases alike with even | single
    · rw [even] at capital
      omega
    · omega

end CapitalRun

theorem capitalRuns_settle : capitalRuns.all CapitalRun.settles = true := by
  decide +kernel

/-- A character that has a small form other than itself. -/
def isCapital (c : Char) : Bool :=
  (CapitalRun.dotted :: capitalRuns).any (·.has c)

theorem not_isCapital_iff {c : Char} :
    isCapital c = false ↔ ∀ run ∈ CapitalRun.dotted :: capitalRuns, run.has c = false := by
  simp [isCapital]

/-- The small letter of a capital is no capital. -/
theorem not_isCapital_shifted {run : CapitalRun} {c : Char} (member : run ∈ capitalRuns) (capital : run.has c = true) :
    isCapital (Char.ofNat (c.toNat + run.shift).toNat) = false := by
  have settled (run : CapitalRun) (listed : run ∈ capitalRuns) :
      0 < run.first ∧ ∀ other ∈ CapitalRun.dotted :: capitalRuns, run.avoids other = true := by
    have checked := List.all_eq_true.1 capitalRuns_settle run listed
    rw [CapitalRun.settles, Bool.and_eq_true, Nat.blt_eq, List.all_eq_true] at checked
    exact checked
  -- A number that is no code point stands for the character zero, which is no capital either.
  have code (n : Nat) : (Char.ofNat n).toNat = n ∨ (Char.ofNat n).toNat = 0 := by
    by_cases valid : n.isValidChar
    · rw [Char.ofNat, dif_pos valid]
      exact Or.inl rfl
    · rw [Char.ofNat, dif_neg valid]
      exact Or.inr rfl
  rw [not_isCapital_iff]
  intro other listed
  rcases code (c.toNat + run.shift).toNat with valid | zero
  · exact CapitalRun.not_has_of_avoids ((settled run member).2 other listed) capital valid
  · have positive : 0 < other.first := by
      rcases List.mem_cons.1 listed with rfl | inside
      · decide
      · exact (settled other inside).1
    rw [Bool.eq_false_iff, ne_eq, CapitalRun.has_iff, zero]
    omega

theorem isCapital_sigma : isCapital 'Σ' = true := by
  decide

theorem isCapital_dotted : isCapital 'İ' = true := by
  decide

theorem not_isCapital_of_mem_lowerChar {before after : List Char} {c d : Char}
    (member : d ∈ lowerChar before c after) : isCapital d = false := by
  unfold lowerChar at member
  split at member
  · have small : ['ς', 'σ'].all (fun c => !isCapital c) = true := by decide
    have sigma : d ∈ ['ς', 'σ'] := by
      split at member <;> simp [List.mem_singleton.1 member]
    simpa using List.all_eq_true.1 small d sigma
  · split at member
    · have small : ['i', '\u0307'].all (fun c => !isCapital c) = true := by decide
      simpa using List.all_eq_true.1 small d member
    · rename_i undotted
      split at member
      · rename_i run found
        rw [List.mem_singleton.1 member]
        exact not_isCapital_shifted (List.mem_of_find?_eq_some found) (by simpa using List.find?_some found)
      · rename_i none
        rw [List.mem_singleton.1 member, not_isCapital_iff]
        intro run listed
        rcases List.mem_cons.1 listed with rfl | inside
        · rw [Bool.eq_false_iff, ne_eq, CapitalRun.has_iff]
          rintro ⟨above, below, _⟩
          have code : c.toNat = 'İ'.toNat := Nat.le_antisymm below above
          exact undotted (Char.toNat_inj.1 code)
        · exact Bool.eq_false_iff.2 (List.find?_eq_none.1 none run inside)

theorem lowerChar_eq_self {c : Char} (small : isCapital c = false) (before after : List Char) :
    lowerChar before c after = [c] := by
  have sigma : c ≠ 'Σ' := by
    rintro rfl
    exact absurd isCapital_sigma (Bool.eq_false_iff.1 small)
  have undotted : c ≠ 'İ' := by
    rintro rfl
    exact absurd isCapital_dotted (Bool.eq_false_iff.1 small)
  have none : capitalRuns.find? (·.has c) = none := by
    rw [List.find?_eq_none]
    intro run listed
    rw [not_isCapital_iff.1 small run (List.mem_cons_of_mem _ listed)]
    decide
  rw [lowerChar, if_neg sigma, if_neg undotted, none]

theorem not_isCapital_of_mem_lowerChars {before cs : List Char} {d : Char} (member : d ∈ lowerChars before cs) :
    isCapital d = false := by
  induction cs generalizing before with
  | nil => cases member
  | cons c after ih =>
    rw [lowerChars, List.mem_append] at member
    exact member.elim not_isCapital_of_mem_lowerChar ih

theorem lowerChars_eq_self {cs : List Char} (small : ∀ c ∈ cs, isCapital c = false) (before : List Char) :
    lowerChars before cs = cs := by
  induction cs generalizing before with
  | nil => rfl
  | cons c after ih =>
    rw [lowerChars, lowerChar_eq_self (small c List.mem_cons_self),
      ih fun d member => small d (List.mem_cons_of_mem _ member), List.singleton_append]

/-- Nothing is left to be replaced in a text in small letters. -/
theorem lowercase_lowercase (s : String) : lowercase (lowercase s) = lowercase s := by
  rw [lowercase, lowercase, String.toList_ofList, lowerChars_eq_self fun c => not_isCapital_of_mem_lowerChars]

end FieldFilter
