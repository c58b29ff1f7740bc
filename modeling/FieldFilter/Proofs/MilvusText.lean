import FieldFilter.Proofs.FilterText
import FieldFilter.Proofs.JsonReader

namespace FieldFilter

def isIdentifierLetter (c : Char) : Bool :=
  c.isAlphanum || c == '_'

/-- A name of letters of the ASCII alphabet, digits and underscores that does not begin with a digit. -/
def IsIdentifier (name : String) : Prop :=
  ∃ c rest, name.toList = c :: rest ∧ c.isDigit = false ∧ (c :: rest).all isIdentifierLetter = true

theorem IsIdentifier.letters {name : String} (identifier : IsIdentifier name) :
    ∀ c ∈ name.toList, isIdentifierLetter c = true := by
  obtain ⟨c, rest, spelled, _, letters⟩ := identifier
  rw [spelled]
  exact List.all_eq_true.1 letters

namespace Dialect

namespace Milvus

def symbolOf (op : Operator) : String :=
  (symbol? op).getD ""

theorem symbolOf_prefixFree (op op' : Operator) (compares : op.isLogical = false)
    (compares' : op'.isLogical = false) (begins : (symbolOf op).toList <+: (symbolOf op').toList) :
    op = op' := by
  revert compares compares' begins
  cases op <;> cases op' <;> decide

theorem readsBack_symbolOf :
    ReadsBack (fun op : Operator => op.isLogical = false) (fun _ => True) (fun op => (symbolOf op).toList) id :=
  .of_prefixFree symbolOf_prefixFree

theorem readsBack_connective :
    ReadsBack (fun _ => True) (fun _ => True) (fun c : Connective => (symbolOf c.operator).toList) id :=
  .of_prefixFree fun c k _ _ => by cases c <;> cases k <;> decide

theorem symbolOf_begins {op : Operator} (compares : op.isLogical = false) :
    ∃ rest, (symbolOf op).toList = ' ' :: rest := by
  cases op <;> first
    | exact absurd compares (by decide)
    | exact ⟨_, rfl⟩

theorem connective_begins (c : Connective) : ∃ rest, (symbolOf c.operator).toList = ' ' :: rest := by
  cases c <;> exact ⟨_, rfl⟩

def truthText (truth : Bool) : String :=
  if truth then "true" else "false"

theorem readsBack_truthText : ReadsBack (fun _ => True) Stops (fun truth => (truthText truth).toList) id :=
  (ReadsBack.of_prefixFree fun truth truth' _ _ => by cases truth <;> cases truth' <;> decide).mono
    (fun _ _ => trivial) (fun _ _ => trivial)

def isScalarLetter (c : Char) : Bool :=
  c == '"' || Scalar.isBareLetter c

theorem scalarText_eq (s : Scalar) : scalarText s = s.textWith jsonText := by
  cases s <;> rfl

theorem jsonText_begins (s : String) : ∃ rest, (jsonText s).toList = '"' :: rest := by
  rw [jsonText, String.toList_ofList]
  exact ⟨_, rfl⟩

theorem readsBack_jsonText : ReadsBack (fun _ => True) (fun _ => True) (fun s => (jsonText s).toList) id := by
  have spelled : (fun s => (jsonText s).toList) = fun s : String => jsonString s.toList := by
    funext s
    rw [jsonText, String.toList_ofList]
  rw [spelled]
  exact (readsBack_jsonString.comap String.toList).tells fun s t _ _ same => String.toList_inj.1 same

theorem spellsValues (column : Option String) : (milvus column).SpellsValues isScalarLetter Scalar.unnumbered where
  opening := ⟨'[', show "[".toList = ['['] ∧ _ by decide⟩
  closing := ⟨']', show "]".toList = [']'] ∧ _ by decide⟩
  separator := show ", ".toList = [',', ' '] by decide
  comma := by decide
  begins := by
    intro s number
    show ∃ c rest, (scalarText s).toList = c :: rest ∧ _
    rw [scalarText_eq]
    exact Scalar.textWith_begins jsonText_begins number
  scalar := by
    have reads := Scalar.readsBack_textWith (by decide) jsonText_begins
      (readsBack_jsonText.mono (fun _ _ => trivial) (fun _ _ => trivial))
    show ReadsBack _ _ (fun s => (scalarText s).toList) _
    simp only [scalarText_eq]
    exact reads

/-- The member names in brackets, each a JSON string. -/
def memberText (name : String) : List Char :=
  (splitDots name.toList).flatMap fun part => ['['] ++ jsonString part ++ [']']

variable (column : Option String) (settings : Settings)

theorem fieldText_base {name : String} (base : isBaseColumn name = true) :
    fieldText column settings name = name := by
  rw [fieldText, if_pos base]

theorem bracketedPart_eq (part : List Char) :
    "[".toList ++ (jsonText (String.ofList part)).toList ++ "]".toList = ['['] ++ jsonString part ++ [']'] := by
  have opening : "[".toList = ['['] := by decide
  have closing : "]".toList = [']'] := by decide
  rw [opening, closing, jsonText, String.toList_ofList, String.toList_ofList]

theorem fieldText_member {name : String} (other : isBaseColumn name = false) :
    (fieldText column settings name).toList = (metadataColumn column settings).toList ++ memberText name := by
  simp only [fieldText, other, Bool.false_eq_true, if_false, String.toList_append, String.toList_join,
    pathSegments, List.flatMap_map, bracketedPart_eq, memberText]

theorem memberText_begins (name : String) : ∃ rest, memberText name = '[' :: rest := by
  unfold memberText
  match parts : splitDots name.toList with
  | [] => exact absurd parts (splitDots_ne_nil _)
  | part :: others => exact ⟨_, rfl⟩

/-- The member names end where no bracket opens. -/
theorem readsBack_memberText : ReadsBack (fun _ => True) (StartsOutside (· == '[')) memberText id := by
  have members : ReadsBack (fun l => ∀ part ∈ l, True) (StartsOutside (· == '['))
      (fun l => l.flatMap fun part => ['['] ++ jsonString part ++ [']']) (List.map id) := by
    have member : ReadsBack (fun _ => True) (fun _ => True)
        (fun part => ['['] ++ jsonString part ++ [']']) id :=
      (readsBack_jsonString.mono (fun _ given => given) (fun _ _ => trivial)).between ['[']
    exact member.flatMap (fun _ _ => trivial) (fun _ _ _ => trivial)
      fun part r _ outside => absurd (startsOutside_cons.1 outside) (by decide)
  rw [List.map_id_fun] at members
  exact ((members.comap fun name : String => splitDots name.toList).mono (fun _ _ _ _ => trivial)
    (fun _ outside => outside)).tells fun a b _ _ same => String.toList_inj.1 (splitDots_injective same)

theorem base_cases {name : String} (base : isBaseColumn name = true) : name = "id" ∨ name = "text" := by
  simpa [isBaseColumn, baseColumns] using base

theorem base_letters {name : String} (base : isBaseColumn name = true) :
    ∀ c ∈ name.toList, isIdentifierLetter c = true := by
  have letters : name.toList.all isIdentifierLetter = true := by
    rcases base_cases base with rfl | rfl <;> decide
  exact List.all_eq_true.1 letters

variable {column settings}

theorem readsBack_name : ReadsBack (fun name : String => ∀ c ∈ name.toList, isIdentifierLetter c = true)
    (StartsOutside isIdentifierLetter) String.toList id :=
  .of_words (fun _ letters => letters) fun _ _ _ _ same => String.toList_inj.1 same

theorem memberText_outside (name : String) (s : List Char) :
    StartsOutside isIdentifierLetter (memberText name ++ s) := by
  obtain ⟨rest, begins⟩ := memberText_begins name
  rw [begins]
  exact startsOutside_cons.2 (by decide)

/-- A field reads back, also where the metadata column has the name of a base column. -/
theorem readsBack_fieldText (identifier : IsIdentifier (metadataColumn column settings)) :
    ReadsBack (fun _ => True) (fun r => ∃ s, r = ' ' :: s) (fun name => (fieldText column settings name).toList)
      id := by
  have space (s : List Char) : StartsOutside isIdentifierLetter (' ' :: s) := startsOutside_cons.2 (by decide)
  have apart {name name' : String} {s s' : List Char} (base : isBaseColumn name = true)
      (other : isBaseColumn name' = false) :
      (fieldText column settings name).toList ++ ' ' :: s ≠
        (fieldText column settings name').toList ++ ' ' :: s' := by
    intro same
    obtain ⟨rest, begins⟩ := memberText_begins name'
    rw [fieldText_base column settings base, fieldText_member column settings other, List.append_assoc] at same
    have rests := (readsBack_name (base_letters base) identifier.letters (space s) (memberText_outside name' _) same).2
    rw [begins] at rests
    exact absurd (List.cons.inj rests).1 (by decide)
  rintro a b r s - - ⟨r', rfl⟩ ⟨s', rfl⟩ same
  cases base : isBaseColumn a <;> cases base' : isBaseColumn b
  · simp only [fieldText_member column settings base, fieldText_member column settings base', List.append_assoc,
      List.append_cancel_left_eq] at same
    exact readsBack_memberText trivial trivial (startsOutside_cons.2 (by decide))
      (startsOutside_cons.2 (by decide)) same
  · exact absurd same.symm (apart base' base)
  · exact absurd same (apart base base')
  · simp only [fieldText_base column settings base, fieldText_base column settings base'] at same
    exact readsBack_name (base_letters base) (base_letters base') (space r') (space s') same

theorem truthText_letters (truth : Bool) : ∀ c ∈ (truthText truth).toList, isIdentifierLetter c = true := by
  have letters : (truthText truth).toList.all isIdentifierLetter = true := by cases truth <;> decide
  exact List.all_eq_true.1 letters

/-- A truth value is never taken for a field: behind the metadata column a bracket opens. -/
theorem truthText_ne_fieldText (identifier : IsIdentifier (metadataColumn column settings)) (truth : Bool)
    (name : String) {r s : List Char} (stops : Stops r) :
    (truthText truth).toList ++ r ≠ (fieldText column settings name).toList ++ s := by
  intro same
  cases base : isBaseColumn name with
  | true =>
    rw [fieldText_base column settings base] at same
    rcases base_cases base with rfl | rfl <;> cases truth <;> simp [truthText] at same
  | false =>
    have outside : StartsOutside isIdentifierLetter r := by
      intro c first
      rcases stops c first with rfl | rfl <;> decide
    obtain ⟨rest, begins⟩ := memberText_begins name
    rw [fieldText_member column settings base, List.append_assoc] at same
    have rests := (readsBack_name (a := truthText truth) (truthText_letters truth) identifier.letters outside
      (memberText_outside name s) same).2
    rw [begins] at rests
    rcases stops '[' (by rw [rests]; rfl) with bracket | bracket <;> exact absurd bracket (by decide)

theorem fieldText_begins (identifier : IsIdentifier (metadataColumn column settings)) (name : String) :
    ∃ c rest, (fieldText column settings name).toList = c :: rest ∧ isIdentifierLetter c = true := by
  cases base : isBaseColumn name with
  | true =>
    rw [fieldText_base column settings base]
    rcases base_cases base with rfl | rfl
    · exact ⟨'i', ['d'], by decide⟩
    · exact ⟨'t', ['e', 'x', 't'], by decide⟩
  | false =>
    obtain ⟨c, rest, spelled, _, letters⟩ := identifier
    rw [fieldText_member column settings base, spelled]
    exact ⟨c, _, rfl, List.all_eq_true.1 letters c List.mem_cons_self⟩

end Milvus

theorem milvus_spellsAtoms {column : Option String} {settings : Settings}
    (identifier : IsIdentifier (metadataColumn column settings)) :
    (milvus column).SpellsAtoms settings Milvus.isScalarLetter Scalar.unnumbered
      (fun name _ => Milvus.fieldText column settings name) where
  values := Milvus.spellsValues column
  outside := by decide
  comparison := fun _ _ _ _ => atomText_infixed rfl
  field := by
    refine ((Milvus.readsBack_fieldText identifier).comap Prod.fst).mono (fun _ _ => trivial) ?_
    rintro r ⟨op, s, compares, rfl⟩
    obtain ⟨rest, begins⟩ := Milvus.symbolOf_begins compares
    exact ⟨_, congrArg (· ++ s) begins⟩
  symbol := Milvus.readsBack_symbolOf
  constant := Milvus.readsBack_truthText
  shown := fun s => by cases s <;> rfl
  front_congr := fun _ _ _ _ => rfl
  settled := fun truth name _ _ _ stops => Milvus.truthText_ne_fieldText identifier truth name stops

theorem milvus_spellsTokens {column : Option String} {settings : Settings}
    (identifier : IsIdentifier (metadataColumn column settings)) :
    (milvus column).SpellsTokens settings Atom.Writable (Value.contents Scalar.unnumbered) := by
  have spells := milvus_spellsAtoms identifier
  have unbracketed := spells.unbracketed
    (fun truth r s same => by
      rw [show (milvus column).atomText settings (.constant truth) = Milvus.truthText truth from rfl] at same
      cases truth <;> simp [Milvus.truthText] at same)
    (fun name _ r s same => by
      obtain ⟨c, rest, begins, letter⟩ := Milvus.fieldText_begins identifier name
      rw [begins] at same
      rw [(List.cons.inj same).1] at letter
      exact absurd letter (by decide))
  exact {
    opening := show "(".toList = ['('] by decide
    closing := show ")".toList = [')'] by decide
    joint := Milvus.readsBack_connective
    spaced := Milvus.connective_begins
    atom := spells.readsBack_atomText
    bracketed := fun a b r s _ given _ _ => unbracketed b _ s given
    doubled := fun b r s given _ => unbracketed b _ s given
    congr := fun _ _ => spells.atomText_congr }

end Dialect

end FieldFilter
