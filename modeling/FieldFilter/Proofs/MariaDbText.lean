import FieldFilter.Proofs.SqlText

namespace FieldFilter

namespace Dialect

namespace MariaDb

theorem scalarText_eq (s : Scalar) : scalarText s = s.spelledOut.textWith (stringLiteral · true) := by
  cases s with
  | bool b => cases b <;> decide
  | text s => rfl
  | int n => rfl
  | float x => rfl

theorem isNan_spelledOut (s : Scalar) : s.spelledOut.isNan = s.isNan := by
  cases s <;> rfl

theorem scalarText_known (s : Scalar) : scalarText s.spelledOut.unnumbered = scalarText s := by
  cases s with
  | bool b => cases b <;> decide
  | text s => rfl
  | int n => rfl
  | float x => rfl

theorem backtick : "\x60".toList = ['\x60'] := by
  decide

variable (column : Option String) (settings : Settings)

theorem fieldText_base {name : String} (base : isBaseColumn name = true) :
    fieldText column settings name = quotedIdentifier name "\x60" := by
  rw [fieldText, if_pos base]

theorem fieldText_member {name : String} (other : isBaseColumn name = false) :
    (fieldText column settings name).toList =
      ("JSON_VALUE(" ++ quotedIdentifier (metadataColumn column settings) "\x60" ++ ", ").toList ++
        (stringLiteral ("$." ++ name) true).toList ++ [')'] := by
  rw [fieldText, other, if_neg (by decide), memberText, String.toList_append, String.toList_append]
  rfl

theorem fieldText_member_begins {name : String} (other : isBaseColumn name = false) :
    ∃ rest, (fieldText column settings name).toList = 'J' :: rest := by
  have literal : "JSON_VALUE(".toList = 'J' :: "SON_VALUE(".toList := by decide
  rw [fieldText_member column settings other, String.toList_append, String.toList_append, literal]
  exact ⟨_, rfl⟩

theorem fieldText_base_begins {name : String} (base : isBaseColumn name = true) :
    ∃ rest, (fieldText column settings name).toList = '\x60' :: rest := by
  rw [fieldText_base column settings base]
  exact quotedIdentifier_begins backtick name

theorem base_ne_member {name name' : String} (base : isBaseColumn name = true)
    (other : isBaseColumn name' = false) (r s : List Char) :
    (fieldText column settings name).toList ++ r ≠ (fieldText column settings name').toList ++ s :=
  append_ne_of_heads (fieldText_base_begins column settings base)
    (fieldText_member_begins column settings other) (by decide) r s

/-- A field reads back, whether it is a base column or a path of the metadata. -/
theorem readsBack_fieldText : ReadsBack (fun _ => True) (fun r => ∃ s, r = ' ' :: s)
    (fun name => (fieldText column settings name).toList) id := by
  rintro a b r s - - ⟨r', rfl⟩ ⟨s', rfl⟩ same
  cases base : isBaseColumn a <;> cases base' : isBaseColumn b
  · simp only [fieldText_member column settings base, fieldText_member column settings base',
      List.append_assoc, List.append_cancel_left_eq] at same
    obtain ⟨paths, rests⟩ := readsBack_stringLiteral true trivial trivial
      (startsOutside_cons.2 (by decide)) (startsOutside_cons.2 (by decide)) same
    have names : ("$.".toList ++ a.toList) = "$.".toList ++ b.toList := by
      rw [← String.toList_append, ← String.toList_append]
      exact congrArg String.toList paths
    exact ⟨String.toList_inj.1 (List.append_cancel_left names), (List.cons.inj rests).2⟩
  · exact absurd same.symm (base_ne_member column settings base' base _ _)
  · exact absurd same (base_ne_member column settings base base' _ _)
  · simp only [fieldText_base column settings base, fieldText_base column settings base'] at same
    exact readsBack_quotedIdentifier backtick (by decide) trivial trivial (startsOutside_cons.2 (by decide))
      (startsOutside_cons.2 (by decide)) same

theorem fieldText_begins (name : String) : ∃ c, (∃ rest, (fieldText column settings name).toList = c :: rest) ∧
    (c = '\x60' ∨ c = 'J') := by
  cases base : isBaseColumn name with
  | true => exact ⟨_, fieldText_base_begins column settings base, Or.inl rfl⟩
  | false => exact ⟨_, fieldText_member_begins column settings base, Or.inr rfl⟩

theorem truth_ne_fieldText (truth : Bool) (name : String) (r s : List Char) :
    (sqlTruth truth).toList ++ r ≠ (fieldText column settings name).toList ++ s := by
  obtain ⟨c, begins, rfl | rfl⟩ := fieldText_begins column settings name
  · exact sqlTruth_ne truth begins (by decide) (by decide) r s
  · exact sqlTruth_ne truth begins (by decide) (by decide) r s

theorem fieldText_ne_opening (name : String) (r s : List Char) :
    (fieldText column settings name).toList ++ r ≠ '(' :: s := by
  obtain ⟨c, begins, rfl | rfl⟩ := fieldText_begins column settings name
  · exact append_ne_of_heads begins ⟨[], rfl⟩ (by decide) r s
  · exact append_ne_of_heads begins ⟨[], rfl⟩ (by decide) r s

end MariaDb

theorem mariaDb_spellsAtoms (column : Option String) (settings : Settings) :
    (mariaDb column).SpellsAtoms settings isSqlLetter (fun s => s.spelledOut.unnumbered)
      (fun name _ => MariaDb.fieldText column settings name) where
  values := spellsValues_of_literals rfl rfl rfl MariaDb.scalarText_eq MariaDb.isNan_spelledOut
  outside := by decide
  comparison := fun _ _ _ _ => atomText_infixed rfl
  field := by
    refine ((MariaDb.readsBack_fieldText column settings).comap Prod.fst).mono (fun _ _ => trivial) ?_
    rintro r ⟨op, s, compares, rfl⟩
    obtain ⟨c, rest, begins, _⟩ := sqlSymbol_begins compares
    exact ⟨_, congrArg (· ++ s) begins⟩
  symbol := readsBack_sqlSymbol
  constant := readsBack_sqlTruth
  shown := MariaDb.scalarText_known
  front_congr := fun _ _ _ _ => rfl
  settled := fun truth name _ r s _ => MariaDb.truth_ne_fieldText column settings truth name r s

theorem mariaDb_spellsTokens (column : Option String) (settings : Settings) :
    (mariaDb column).SpellsTokens settings Atom.Writable (Value.contents fun s => s.spelledOut.unnumbered) := by
  have spells := mariaDb_spellsAtoms column settings
  have unbracketed := spells.unbracketed
    (fun truth r s => sqlTruth_ne truth (t := ['(']) ⟨[], rfl⟩ (by decide) (by decide) r s)
    (fun name _ r s => MariaDb.fieldText_ne_opening column settings name r s)
  exact {
    opening := show "(".toList = ['('] by decide
    closing := show ")".toList = [')'] by decide
    joint := readsBack_sqlConnective
    spaced := sqlConnective_begins
    atom := spells.readsBack_atomText
    bracketed := fun a b r s _ given _ _ => unbracketed b _ s given
    doubled := fun b r s given _ => unbracketed b _ s given
    congr := fun _ _ => spells.atomText_congr }

end Dialect

end FieldFilter
