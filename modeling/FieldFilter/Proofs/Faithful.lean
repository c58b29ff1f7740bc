import FieldFilter.Proofs.Precedence
import FieldFilter.Proofs.Writing

namespace FieldFilter

namespace Operand

/-- The filter that is written in place of one with negations: every negation that the walk from the root
meets is carried out. -/
def resolved : Operand → Except FilterError Operand
  | .group content => content.resolved.map .group
  | .expression tag left right =>
    match tag.operator? with
    | some .not => left.negate
    | some .and | some .or =>
      left.resolved.bind fun left' => right.resolved.map fun right' => .expression tag left' right'
    | _ => .ok (.expression tag left right)
  | t => .ok t

theorem resolved_connective {tag : Tag} {c : Connective} (known : tag.operator? = some c.operator)
    (left right : Operand) :
    (Operand.expression tag left right).resolved =
      left.resolved.bind fun left' => right.resolved.map fun right' => .expression tag left' right' := by
  cases c <;> simp only [Connective.operator] at known <;> rw [resolved, known]

theorem resolved_comparison {tag : Tag} {op : Operator} (known : tag.operator? = some op)
    (compares : op.isLogical = false) (left right : Operand) :
    (Operand.expression tag left right).resolved = .ok (.expression tag left right) := by
  rw [resolved, known]
  cases op <;> simp_all [Operator.isLogical]

/-- A well-formed filter is written as a plain one that is true whenever it is. -/
theorem WellFormed.resolved_exists {t : Operand} (wellFormed : t.WellFormed) :
    ∃ p, t.resolved = .ok p ∧ p.Plain ∧ (∀ I : Interpretation Bool, p.truth I = t.truth I) ∧
      ∀ {d : Dialect} (settings : Settings), d.Infix → t.write d settings = p.write d settings := by
  induction wellFormed with
  | comparison field v known compares =>
    exact ⟨_, resolved_comparison known compares _ _, .comparison field v known compares, fun _ => rfl,
      fun _ _ => rfl⟩
  | @connective tag left right c known _ _ resolvedLeft resolvedRight =>
    obtain ⟨left', runLeft, plainLeft, truthLeft, sameLeft⟩ := resolvedLeft
    obtain ⟨right', runRight, plainRight, truthRight, sameRight⟩ := resolvedRight
    refine ⟨.expression tag left' right', ?_, .connective c known plainLeft plainRight, fun I => ?_,
      fun settings spells => ?_⟩
    · rw [resolved_connective known, runLeft, runRight]
      rfl
    · rw [truth_connective I known, truth_connective I known, truthLeft, truthRight]
    · rw [write_connective spells known, write_connective spells known, sameLeft settings spells,
        sameRight settings spells]
  | @negation tag left right known inner _ =>
    obtain ⟨r, run, plain, truth⟩ := inner.negate_exists (α := Bool)
    refine ⟨r, ?_, plain, fun I => ?_, fun settings _ => write_negation known run right⟩
    · rw [resolved, known]
      exact run
    · rw [truth I, truth_negation I known]
  | @group content _ resolvedContent =>
    obtain ⟨p, run, plain, truth, same⟩ := resolvedContent
    refine ⟨.group p, ?_, .group plain, truth, fun settings spells => ?_⟩
    · rw [resolved, run]
      rfl
    · rw [write_group, write_group, same settings spells]

end Operand

/-- What a dialect writes for a well-formed filter is a row of tokens. If no conjunction that is written
has a disjunction directly below it, then these tokens, read with brackets before conjunctions and
conjunctions before disjunctions, are true exactly when the filter is. -/
theorem written_tokens_read_as_filter (store : Store) (given : Option String) (settings : Settings)
    {t : Operand} (wellFormed : t.WellFormed) :
    ∃ p, t.resolved = .ok p ∧ p.Plain ∧
      (store.dialect given).render settings t =
        .ok ((store.dialect given).tokensText settings p.chain.tokens) ∧
      (p.Grouped .or .and → ∀ I : Interpretation Bool, I.SettlesEmpty →
        Token.evaluate (Atom.holds I) p.chain.tokens = some (t.truth I)) := by
  obtain ⟨p, run, plain, truth, same⟩ := wellFormed.resolved_exists
  refine ⟨p, run, plain, ?_, fun grouped I settled => ?_⟩
  · have spells := store.isInfix given
    apply Dialect.render_of_writes
    rw [same settings spells]
    exact plain.writes spells
  · rw [Chain.evaluate_tokens, (plain.chain_reads grouped settled).2, truth I]

/-- The filter `NOT (a = 1 OR NOT (b IN [] OR c > 1))` is written as `a != 1 AND (FALSE OR c > 1)`. -/
theorem written_tokens_of_nested_negations :
    let compared (op : Operator) (field : String) := Operand.expression (.known op) (.key field)
      (.value (.scalar (.int 1)))
    let empty := Operand.expression (.known .isIn) (.key "b") (.value (.list ⟨[], by decide⟩))
    let inner := Operand.group (.expression (.known .or) empty (compared .gt "c"))
    let t := Operand.expression (.known .not)
      (.expression (.known .or) (compared .eq "a") (.expression (.known .not) inner .absent)) .absent
    let p := Operand.expression (.known .and) (compared .ne "a") inner
    let I := Interpretation.ofField "a"
    t.WellFormed ∧ p.Grouped .or .and ∧ t.resolved = .ok p ∧
      Token.evaluate (Atom.holds I) p.chain.tokens = some (t.truth I) := by
  intro compared empty inner t p I
  have compare (op : Operator) (field : String) (compares : op.isLogical = false) :
      (compared op field).WellFormed := .comparison field (.scalar (.int 1)) (Tag.operator?_known op) compares
  have innerWell : inner.WellFormed := .group (.connective .or (Tag.operator?_known .or)
    (.comparison "b" _ (Tag.operator?_known .isIn) rfl) (compare .gt "c" rfl))
  have wellFormed : t.WellFormed := .negation .absent (Tag.operator?_known .not)
    (.connective .or (Tag.operator?_known .or) (compare .eq "a" rfl)
      (.negation .absent (Tag.operator?_known .not) innerWell))
  have grouped : p.Grouped .or .and := by
    simp [p, inner, compared, empty, Operand.Grouped, Operand.joins, Connective.operator]
  obtain ⟨p', run, _, _, reads⟩ := written_tokens_read_as_filter .pgVector none default wellFormed
  have resolved : t.resolved = .ok p := by cbv
  have same : p' = p := Except.ok.inj (run.symm.trans resolved)
  subst same
  exact ⟨wellFormed, grouped, run, reads grouped I (Interpretation.settlesEmpty_ofField "a")⟩

end FieldFilter
