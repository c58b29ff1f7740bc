import FieldFilter.Proofs.ErrorClasses

namespace FieldFilter

namespace FilterError

/-- The same error as another dialect reports it. -/
def inDialect (dialect : String) : FilterError → FilterError
  | .noSymbol tag _ supported => .noSymbol tag dialect supported
  | e => e

end FilterError

namespace Operand

/-- What one store finds is what another one finds, but for the name of the dialect, unless the other one stops at a
name that is no text. -/
def FollowsFault (dialect : String) (found strict : Option FilterError) : Prop :=
  found = strict.map (·.inDialect dialect) ∨ ∃ fault, strict = some (.unfitName fault)

namespace FollowsFault

variable {dialect : String} {found strict found' strict' : Option FilterError}

theorem or (first : FollowsFault dialect found strict) (second : FollowsFault dialect found' strict') :
    FollowsFault dialect (found.or found') (strict.or strict') := by
  rcases first with rfl | ⟨fault, rfl⟩
  · cases strict with
    | none => exact second
    | some e => exact Or.inl rfl
  · exact Or.inr ⟨fault, rfl⟩

theorem comparison (written : FollowsFault dialect found strict) (tag : Tag) (right : Operand) :
    FollowsFault dialect (comparisonFault tag right found) (comparisonFault tag right strict) := by
  unfold comparisonFault
  split
  · exact Or.inl rfl
  · split
    · exact Or.inl rfl
    · exact written

end FollowsFault

variable {store : Store} {given : Option String} {settings : Settings} {t x : Operand}

end Operand

end FieldFilter
