import FieldFilter.Proofs.MariaDbText
import FieldFilter.Proofs.MilvusText
import FieldFilter.Proofs.PgVectorText

namespace FieldFilter

/-- In the dialects that look like SQL no field name and no string breaks out of its place: two filters are
written alike exactly when they have the same parts from left to right. Values are the same if their items
are, of the same types and with the sign of zero; only in MariaDB a truth value and its JSON spelling are
the same. -/
theorem sql_texts_eq_iff_flattening (column : Option String) (settings : Settings) {t u : Operand}
    (plain : t.Plain) (plain' : u.Plain) (numbers : t.AllNumbers) (numbers' : u.AllNumbers) :
    (∃ text text', (Store.pgVector.dialect column).render settings t = .ok text ∧
      (Store.pgVector.dialect column).render settings u = .ok text' ∧
      (text = text' ↔ t.flattening Scalar.unnumbered = u.flattening Scalar.unnumbered)) ∧
    ∃ text text', (Store.mariaDb.dialect column).render settings t = .ok text ∧
      (Store.mariaDb.dialect column).render settings u = .ok text' ∧
      (text = text' ↔
        t.flattening (fun s => s.spelledOut.unnumbered) = u.flattening fun s => s.spelledOut.unnumbered) := by
  constructor
  · have spells := Dialect.pgVector_spellsTokens column settings
    exact spells.render_eq_iff (Store.pgVector.isInfix column) plain plain' numbers numbers'
  · have spells := Dialect.mariaDb_spellsTokens column settings
    exact spells.render_eq_iff (Store.mariaDb.isInfix column) plain plain' numbers numbers'

/-- A truth value and a text with its spelling are told apart by one dialect and not by the other, and the
quotes in the field name are harmless in both. -/
theorem sql_texts_of_truth_and_spelling :
    let compared (s : Scalar) := Operand.expression (.known .eq) (.key "it's") (.value (.scalar s))
    let t := compared (.bool true)
    let u := compared (.text "true")
    t.Plain ∧ u.Plain ∧ t.AllNumbers ∧ u.AllNumbers ∧
      (∃ text text', (Store.pgVector.dialect none).render default t = .ok text ∧
        (Store.pgVector.dialect none).render default u = .ok text' ∧ text ≠ text') ∧
      ∃ text, (Store.mariaDb.dialect none).render default t = .ok text ∧
        (Store.mariaDb.dialect none).render default u = .ok text := by
  intro compared t u
  have plain (s : Scalar) : (compared s).Plain := .comparison "it's" (.scalar s) (Tag.operator?_known .eq) rfl
  have numbers {s : Scalar} (number : s.isNan = false) : (compared s).AllNumbers := by
    refine ⟨trivial, fun x member => ?_⟩
    rw [List.mem_singleton.1 member]
    exact number
  obtain ⟨⟨pg, pg', run, run', different⟩, maria, maria', ran, ran', equal⟩ :=
    sql_texts_eq_iff_flattening none default (plain (.bool true)) (plain (.text "true")) (numbers rfl) (numbers rfl)
  refine ⟨plain _, plain _, numbers rfl, numbers rfl, ⟨pg, pg', run, run', ?_⟩, maria, ran, ?_⟩
  · rw [ne_eq, different]
    intro same
    have flat (s : Scalar) : (compared s).flattening Scalar.unnumbered =
        .last (.atom (.comparison .eq "it's" (.scalar s.unnumbered))) := rfl
    rw [flat, flat] at same
    simp [Scalar.unnumbered] at same
  · rw [equal.2 rfl]
    exact ran'

/-- In the dialect of Milvus no field name and no string breaks out of its place either, if the metadata
column is an identifier, as it stands in front of the names without quotes. Strings are of Unicode characters here:
a pair of surrogates would be escaped like the character that it encodes. -/
theorem milvus_texts_eq_iff_flattening (column : Option String) (settings : Settings)
    (identifier : IsIdentifier (metadataColumn column settings)) {t u : Operand} (plain : t.Plain)
    (plain' : u.Plain) (numbers : t.AllNumbers) (numbers' : u.AllNumbers) :
    ∃ text text', (Store.milvus.dialect column).render settings t = .ok text ∧
      (Store.milvus.dialect column).render settings u = .ok text' ∧
      (text = text' ↔ t.flattening Scalar.unnumbered = u.flattening Scalar.unnumbered) := by
  have spells := Dialect.milvus_spellsTokens identifier
  exact spells.render_eq_iff (Store.milvus.isInfix column) plain plain' numbers numbers'

end FieldFilter
