import FieldFilter.Proofs.JsonPath
import FieldFilter.Proofs.JsonReader
import FieldFilter.Proofs.MariaDbText
import FieldFilter.Proofs.MilvusText

namespace FieldFilter

namespace Dialect

namespace PgVector

/-- What follows the column in a reference: a member, or the path to a nested one. -/
def memberReader : Reader (List (List Char)) :=
  (((quotedText '\'').map fun name => [name]).behind "->>".toList).orElse
    (((quotedText '\'').decode arrayText.whole).behind " #>> ".toList)

/-- The member names along which a reference leads into the metadata. -/
def path? (reference : List Char) : Option (List (List Char)) :=
  (((identifierChain '"').andThen memberReader).map Prod.snd).whole reference

theorem memberReader_reads (name : String) :
    memberReader.Reads (StartsOutside (· == '\'')) (memberText name).toList (splitDots name.toList) := by
  unfold memberText
  by_cases nested : '.' ∈ name.toList
  · rw [if_pos (List.contains_iff_mem.2 nested), String.toList_append]
    refine (((stringLiteral_reads _).decode (pathLiteral_read name)).behind _).orElse_right fun r => ?_
    exact Reader.behind_run_of_head_ne (by decide) _ _
  · rw [if_neg (fun contained => nested (List.contains_iff_mem.1 contained)), String.toList_append,
      splitDots_of_dotless nested]
    exact (((stringLiteral_reads name).map fun name => [name]).behind _).orElse_left _

theorem path?_fieldText (column : Option String) (settings : Settings) {name : String}
    (other : isBaseColumn name = false) :
    path? (fieldText column settings name).toList = some (splitDots name.toList) := by
  rw [fieldText_member column settings other, String.toList_append]
  have identifier := identifierChain_reads doubleQuote (by decide) (metadataColumn column settings)
  exact ((identifier.andThen (memberReader_reads name) (memberText_outside name)).map Prod.snd).whole
    (startsOutside_nil _)

end PgVector

namespace Milvus

/-- A member name in brackets. -/
def memberReader : Reader (List Char) :=
  (jsonReader.behind ['[']).before [']']

/-- The member names along which a reference leads into the metadata. -/
def path? (column reference : List Char) : Option (List (List Char)) :=
  (column.isPrefixOf? reference).bind memberReader.all

theorem path?_fieldText (column : Option String) (settings : Settings) {name : String}
    (other : isBaseColumn name = false) :
    path? (metadataColumn column settings).toList (fieldText column settings name).toList =
      some (splitDots name.toList) := by
  have member (part : List Char) :
      memberReader.Reads (fun _ => True) (['['] ++ jsonString part ++ [']']) part :=
    (((jsonReader_reads part).mono fun _ _ => trivial).behind ['[']).before
  have members : memberReader.all (memberText name) = some ((splitDots name.toList).map fun part => part) :=
    Reader.Reads.all_flatMap (fun part _ => member part) (fun _ _ _ => trivial) trivial
  rw [List.map_id'] at members
  rw [path?, fieldText_member column settings other, isPrefixOf?_append, Option.bind_some, members]

end Milvus

namespace MariaDb

/-- The text of the path in a reference. -/
def pathReader : Reader (List Char) :=
  ((((identifierChain '\x60').andThen (mariaDbText.behind ", ".toList)).behind "JSON_VALUE(".toList).before
    [')']).map Prod.snd

/-- The steps along which a reference leads into the metadata. -/
def path? (reference : List Char) : Option (List PathStep) :=
  (pathReader.whole reference).bind jsonPath?

theorem path?_fieldText (column : Option String) (settings : Settings) {name : String}
    (other : isBaseColumn name = false) :
    path? (fieldText column settings name).toList = pathStep.all ('.' :: name.toList) := by
  have identifier := identifierChain_reads backtick (by decide) (metadataColumn column settings)
  have literal := (mariaDbText_reads ("$." ++ name)).behind ", ".toList
  have closed (r : List Char) (begins : [')'] <+: r) : StartsOutside (· == '\'') r := by
    obtain ⟨rest, rfl⟩ := begins
    exact startsOutside_cons.2 (by decide)
  have reads := (identifier.andThen literal fun r => startsOutside_cons.2 (by decide)).behind "JSON_VALUE(".toList
  have read := ((reads.mono closed).before.map Prod.snd).whole trivial
  rw [path?, fieldText_member column settings other]
  simp only [String.toList_append, List.append_assoc] at read ⊢
  rw [pathReader, read]
  rfl

end MariaDb

end Dialect

/-- A field of the metadata is looked for in one place, along the parts of its name between the dots, by the stores
that quote these parts. Where they are written into the path as they stand, that is so exactly if all of them are
bare names. -/
theorem stores_follow_one_path_iff (column : Option String) (settings : Settings) {name : String}
    (other : isBaseColumn name = false) :
    Dialect.PgVector.path? (Dialect.PgVector.fieldText column settings name).toList =
        some (splitDots name.toList) ∧
      Dialect.Milvus.path? (metadataColumn column settings).toList
          (Dialect.Milvus.fieldText column settings name).toList = some (splitDots name.toList) ∧
      (Dialect.MariaDb.path? (Dialect.MariaDb.fieldText column settings name).toList =
          some ((splitDots name.toList).map PathStep.member) ↔
        ∀ part ∈ splitDots name.toList, IsBareName part) := by
  refine ⟨Dialect.PgVector.path?_fieldText column settings other,
    Dialect.Milvus.path?_fieldText column settings other, ?_⟩
  rw [Dialect.MariaDb.path?_fieldText column settings other]
  exact path_of_dotted_name_iff name.toList

/-- Quotes, backslashes and empty parts lead all stores along one path. -/
theorem stores_follow_one_path_of_quotes :
    let name := "info..o'k\\]*"
    isBaseColumn name = false ∧
      Dialect.PgVector.path? (Dialect.PgVector.fieldText none default name).toList =
        some ["info".toList, [], "o'k\\]*".toList] ∧
      Dialect.Milvus.path? (metadataColumn none default).toList
          (Dialect.Milvus.fieldText none default name).toList = some ["info".toList, [], "o'k\\]*".toList] ∧
      Dialect.MariaDb.path? (Dialect.MariaDb.fieldText none default name).toList =
        some [.member "info".toList, .member [], .member "o'k\\]*".toList] := by
  intro name
  have other : isBaseColumn name = false := by decide
  have parts : splitDots name.toList = ["info".toList, [], "o'k\\]*".toList] := by decide
  obtain ⟨pgVector, milvus, mariaDb⟩ := stores_follow_one_path_iff none default other
  rw [parts] at pgVector milvus mariaDb
  exact ⟨other, pgVector, milvus, mariaDb.2 (by simp [IsBareName, endsName])⟩

/-- A name with an index in brackets is one member for two of the stores, and an element of an array for the
third. -/
theorem index_in_name_is_read_as_element :
    let name := "a[0]"
    Dialect.PgVector.path? (Dialect.PgVector.fieldText none default name).toList = some [name.toList] ∧
      Dialect.Milvus.path? (metadataColumn none default).toList
          (Dialect.Milvus.fieldText none default name).toList = some [name.toList] ∧
      Dialect.MariaDb.path? (Dialect.MariaDb.fieldText none default name).toList =
        some [.member ['a'], .element 0] ∧
      [PathStep.member ['a'], .element 0] ≠ (splitDots name.toList).map .member := by
  intro name
  have other : isBaseColumn name = false := by decide
  have single : splitDots name.toList = [name.toList] := by decide
  have steps : pathStep.all ('.' :: name.toList) = some [.member ['a'], .element 0] := by decide +kernel
  rw [Dialect.PgVector.path?_fieldText none default other, Dialect.Milvus.path?_fieldText none default other,
    Dialect.MariaDb.path?_fieldText none default other, steps, single]
  exact ⟨rfl, rfl, rfl, by decide⟩

end FieldFilter
