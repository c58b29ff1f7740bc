import Mathlib.Data.List.TakeWhile
import FieldFilter.Proofs.NestedPath

namespace FieldFilter

/-- A step of a JSON path: a member of an object, any member, or an element of an array. -/
inductive PathStep
  | member (name : List Char)
  | anyMember
  | element (index : Nat)
deriving DecidableEq

/-- Whether a member name without quotes ends in front of the character. -/
def endsName (c : Char) : Bool :=
  c == '.' || c == '['

/-- What stands behind the dot of a member: the wildcard, a name in quotes, or else a name without quotes,
which goes on as far as it can and may be empty. -/
def readMember (s : List Char) : Option (PathStep × List Char) :=
  if s.head? = some '*' then some (.anyMember, s.tail)
  else if s.head? = some '"' then (elementText.run s).map fun read => (.member read.1, read.2)
  else some (.member (s.takeWhile (!endsName ·)), s.dropWhile (!endsName ·))

/-- What stands behind the bracket of an element. -/
def readElement (s : List Char) : Option (PathStep × List Char) :=
  if s.takeWhile Char.isDigit = [] then none
  else ([']'].isPrefixOf? (s.dropWhile Char.isDigit)).map
    (.element (Nat.ofDigitChars 10 (s.takeWhile Char.isDigit) 0), ·)

theorem length_readMember {s rest : List Char} {step : PathStep} (read : readMember s = some (step, rest)) :
    rest.length ≤ s.length := by
  unfold readMember at read
  split at read
  · obtain rfl : s.tail = rest := (Prod.mk.inj (Option.some.inj read)).2
    simp
  split at read
  · obtain ⟨⟨name, t⟩, quoted, same⟩ := Option.map_eq_some_iff.1 read
    obtain rfl : t = rest := (Prod.mk.inj same).2
    exact Nat.le_of_lt (elementText.shortens quoted)
  · obtain rfl : s.dropWhile (!endsName ·) = rest := (Prod.mk.inj (Option.some.inj read)).2
    exact (List.dropWhile_sublist _).length_le

theorem length_readElement {s rest : List Char} {step : PathStep} (read : readElement s = some (step, rest)) :
    rest.length ≤ s.length := by
  obtain ⟨_, read⟩ := Option.ite_none_left_eq_some.1 read
  obtain ⟨t, closed, same⟩ := Option.map_eq_some_iff.1 read
  obtain rfl : t = rest := (Prod.mk.inj same).2
  have length := length_of_isPrefixOf? closed
  have shorter := (List.dropWhile_sublist (l := s) Char.isDigit).length_le
  omega

/-- A step of a JSON path. -/
def pathStep : Reader PathStep where
  run
    | '.' :: s => readMember s
    | '[' :: s => readElement s
    | _ => none
  shortens {s step rest} run := by
    split at run
    · exact Nat.lt_succ_of_le (length_readMember run)
    · exact Nat.lt_succ_of_le (length_readElement run)
    · cases run

/-- The steps of a JSON path from the top of a document. -/
def jsonPath? (s : List Char) : Option (List PathStep) :=
  (['$'].isPrefixOf? s).bind pathStep.all

/-- A name that a member step gives without quotes. -/
def IsBareName (name : List Char) : Prop :=
  (∀ c ∈ name, endsName c = false) ∧ name.head? ≠ some '*' ∧ name.head? ≠ some '"'

instance (name : List Char) : Decidable (IsBareName name) :=
  inferInstanceAs (Decidable (_ ∧ _ ∧ _))

theorem pathStep_reads {name : List Char} (bare : IsBareName name) :
    pathStep.Reads (StartsOutside (!endsName ·)) ('.' :: name) (.member name) := by
  obtain ⟨letters, noStar, noQuote⟩ := bare
  intro r atEnd
  have first {c : Char} (other : name.head? ≠ some c) (letter : endsName c = false) :
      (name ++ r).head? ≠ some c := by
    cases name with
    | nil =>
      intro begins
      have ended := atEnd c begins
      simp [letter] at ended
    | cons d rest => simpa using other
  have word : ∀ c ∈ name, (!endsName c) = true := fun c member => by simp [letters c member]
  have taken : (name ++ r).takeWhile (!endsName ·) = name ∧ (name ++ r).dropWhile (!endsName ·) = r := by
    rw [List.takeWhile_append_of_pos word, List.dropWhile_append_of_pos word]
    cases r with
    | nil => simp
    | cons c rest => simp [startsOutside_cons.1 atEnd]
  change readMember (name ++ r) = _
  rw [readMember, if_neg (first noStar (by decide)), if_neg (first noQuote (by decide)), taken.1, taken.2]

/-- A name takes up its own characters, and more than these if it is not a bare one. -/
theorem length_of_name_read {s name rest : List Char} (read : readMember s = some (.member name, rest)) :
    name.length + rest.length ≤ s.length ∧ (name.length + rest.length = s.length → IsBareName name) := by
  unfold readMember at read
  split at read
  · cases read
  rename_i noStar
  split at read
  · obtain ⟨⟨quoted, u⟩, run, same⟩ := Option.map_eq_some_iff.1 read
    obtain ⟨rfl, rfl⟩ : quoted = name ∧ u = rest := by simpa using same
    have length := Reader.length_of_runEnclosed run
    exact ⟨by omega, by omega⟩
  · rename_i noQuote
    obtain ⟨rfl, rfl⟩ : s.takeWhile (!endsName ·) = name ∧ s.dropWhile (!endsName ·) = rest := by
      simpa using read
    have length := congrArg List.length (List.takeWhile_append_dropWhile (p := (!endsName ·)) (l := s))
    rw [List.length_append] at length
    refine ⟨by omega, fun _ => ⟨fun c letter => ?_, ?_⟩⟩
    · simpa using List.mem_takeWhile_imp letter
    · cases s with
      | nil => simp
      | cons c s =>
        rw [List.takeWhile_cons]
        split
        · exact ⟨noStar, noQuote⟩
        · simp

theorem length_of_member_read {s name rest : List Char} (read : pathStep.run s = some (.member name, rest)) :
    name.length + 1 + rest.length ≤ s.length ∧
      (name.length + 1 + rest.length = s.length → IsBareName name) := by
  simp only [pathStep] at read
  split at read
  · obtain ⟨fits, bare⟩ := length_of_name_read read
    simp only [List.length_cons]
    exact ⟨by omega, fun same => bare (by omega)⟩
  · obtain ⟨_, element⟩ := Option.ite_none_left_eq_some.1 read
    obtain ⟨_, _, same⟩ := Option.map_eq_some_iff.1 element
    simp at same
  · cases read

/-- Members take up at least what their bare names would; the lengths tell whether all names are bare. -/
theorem length_of_members_read {names : List (List Char)} {s : List Char}
    (read : pathStep.all s = some (names.map .member)) :
    (names.flatMap ('.' :: ·)).length ≤ s.length ∧
      ((names.flatMap ('.' :: ·)).length = s.length → ∀ name ∈ names, IsBareName name) := by
  induction names generalizing s with
  | nil => simp
  | cons name names ih =>
    obtain ⟨rest, first, others⟩ := Reader.all_eq_some_cons.1 read
    obtain ⟨fits, bare⟩ := length_of_member_read first
    obtain ⟨fit, bares⟩ := ih others
    simp only [List.flatMap_cons, List.length_append, List.length_cons]
    refine ⟨by omega, fun same => ?_⟩
    rw [List.forall_mem_cons]
    exact ⟨bare (by omega), bares (by omega)⟩

/-- A dotted name is read as the members between its dots exactly if each of them is a bare name. -/
theorem path_of_dotted_name_iff (s : List Char) :
    pathStep.all ('.' :: s) = some ((splitDots s).map .member) ↔ ∀ part ∈ splitDots s, IsBareName part := by
  constructor
  · intro read
    exact (length_of_members_read read).2 (congrArg List.length (flatMap_splitDots s))
  · intro bare
    rw [← flatMap_splitDots]
    refine Reader.Reads.all_flatMap (fun part member => pathStep_reads (bare part member)) (fun part _ r => ?_)
      (startsOutside_nil _)
    exact startsOutside_cons.2 (by decide)

end FieldFilter
