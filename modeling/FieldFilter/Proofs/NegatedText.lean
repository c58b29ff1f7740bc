import FieldFilter.Proofs.Faithful

namespace FieldFilter

variable {α : Type}

namespace Chain

theorem append_assoc (first : Chain α) (c : Connective) (second : Chain α) (k : Connective) (third : Chain α) :
    (first.append c second).append k third = first.append c (second.append k third) := by
  cases first with
  | last p => rw [append, append, append]
  | link p j rest => rw [append, append, append, append_assoc rest]

/-- A conjunct that holds does no harm at the end. -/
theorem holdsAfter_append_of_holds {truth : α → Bool} {pending : Bool} {left right : Chain α}
    (first : left.holdsAfter truth pending = true) (second : right.holds truth = true) :
    (left.append .and right).holdsAfter truth pending = true := by
  match left with
  | .last p =>
    rw [holdsAfter] at first
    rw [append, holdsAfter, first]
    exact second
  | .link p .and rest =>
    rw [holdsAfter] at first
    rw [append, holdsAfter]
    exact holdsAfter_append_of_holds first second
  | .link p .or rest =>
    rw [holdsAfter, Bool.or_eq_true] at first
    rw [append, holdsAfter, Bool.or_eq_true]
    exact first.imp_right fun later => holdsAfter_append_of_holds later second

/-- The chain holds, and does no harm as a conjunct in front of one that holds either. -/
def Firm (truth : α → Bool) (c : Chain α) : Prop :=
  c.holds truth = true ∧ ∀ rest : Chain α, rest.holds truth = true → (c.append .and rest).holds truth = true

theorem firm_last {truth : α → Bool} {p : Part α} (true_ : p.holds truth = true) :
    (Chain.last p).Firm truth := by
  refine ⟨?_, fun rest holds => ?_⟩
  · rw [holds, holdsAfter, true_]
    rfl
  · rw [append, Chain.holds, holdsAfter, true_]
    exact holds

theorem Firm.append {truth : α → Bool} {left right : Chain α} (firmLeft : left.Firm truth)
    (firmRight : right.Firm truth) (c : Connective) : (left.append c right).Firm truth := by
  cases c with
  | and =>
    refine ⟨firmLeft.2 right firmRight.1, fun rest holds => ?_⟩
    rw [append_assoc]
    exact firmLeft.2 _ (firmRight.2 rest holds)
  | or =>
    refine ⟨?_, fun rest holds => ?_⟩
    · rw [Chain.holds, holdsAfter_append_or, Bool.or_eq_true]
      exact Or.inl firmLeft.1
    · rw [append_assoc, Chain.holds, holdsAfter_append_or, Bool.or_eq_true]
      exact Or.inr (firmRight.2 rest holds)

end Chain

namespace Operand

def negation (t : Operand) : Operand :=
  .expression (.known .not) t .absent

/-- Two plain filters that differ in nothing but their comparisons. -/
inductive SameShape : Operand → Operand → Prop
  | comparison {tag tag' : Tag} {op op' : Operator} (field field' : String) (v v' : Value) :
      tag.operator? = some op → op.isLogical = false → tag'.operator? = some op' → op'.isLogical = false →
      SameShape (.expression tag (.key field) (.value v)) (.expression tag' (.key field') (.value v'))
  | connective {tag tag' : Tag} {left right left' right' : Operand} (c : Connective) :
      tag.operator? = some c.operator → tag'.operator? = some c.operator →
      SameShape left left' → SameShape right right' →
      SameShape (.expression tag left right) (.expression tag' left' right')
  | group {content content' : Operand} : SameShape content content' →
      SameShape (.group content) (.group content')

theorem Plain.sameShape {t : Operand} (plain : t.Plain) : t.SameShape t := by
  induction plain with
  | comparison field v known compares => exact .comparison field field v v known compares known compares
  | connective c known _ _ left right => exact .connective c known known left right
  | group _ content => exact .group content

theorem SameShape.plain {t u : Operand} (shape : t.SameShape u) : u.Plain := by
  induction shape with
  | comparison _ field _ v _ _ known compares => exact .comparison field v known compares
  | connective c _ known _ _ left right => exact .connective c known left right
  | group _ content => exact .group content

theorem SameShape.joins_eq {t u : Operand} (shape : t.SameShape u) (c : Connective) :
    u.joins c = t.joins c := by
  cases shape with
  | comparison _ _ _ _ known compares known' compares' =>
    rw [joins_comparison known compares, joins_comparison known' compares']
  | connective k known known' => rw [joins_connective known, joins_connective known']
  | group => rfl

theorem SameShape.grouped {t u : Operand} (shape : t.SameShape u) {inner outer : Connective}
    (grouped : t.Grouped inner outer) : u.Grouped inner outer := by
  induction shape with
  | comparison field field' v v' known compares known' compares' => exact ⟨fun _ => ⟨rfl, rfl⟩, trivial, trivial⟩
  | connective c known known' left right groupedLeft groupedRight =>
    obtain ⟨direct, inLeft, inRight⟩ := grouped
    refine ⟨fun atTag => ?_, groupedLeft inLeft, groupedRight inRight⟩
    rw [left.joins_eq, right.joins_eq]
    exact direct (known.trans (known'.symm.trans atTag))
  | group _ groupedContent => exact groupedContent grouped

theorem Plain.joins_dual {t : Operand} (plain : t.Plain) (c : Connective) :
    t.dual.joins c = t.joins c.opposite := by
  cases plain with
  | comparison field v known compares =>
    obtain ⟨other, paired, compares'⟩ := Operator.opposite?_comparison compares
    rw [dual_comparison known compares paired, joins_comparison known compares,
      joins_comparison (Tag.operator?_known other) compares']
  | connective k known =>
    rw [dual_connective known, joins_connective known, joins_connective (Tag.operator?_known _)]
    cases c <;> cases k <;> rfl
  | group => rfl

theorem grouped_ungrouped {t : Operand} {inner outer : Connective} :
    t.ungrouped.Grouped inner outer ↔ t.Grouped inner outer := by
  cases t <;> rfl

/-- Negation exchanges the roles of the connectives and leaves the groups where they are. -/
theorem Plain.grouped_dual {t : Operand} (plain : t.Plain) {inner outer : Connective} :
    t.dual.Grouped inner outer ↔ t.Grouped inner.opposite outer.opposite := by
  induction plain with
  | comparison field v known compares =>
    obtain ⟨other, paired, _⟩ := Operator.opposite?_comparison compares
    rw [dual_comparison known compares paired]
    exact ⟨fun _ => ⟨fun _ => ⟨rfl, rfl⟩, trivial, trivial⟩, fun _ => ⟨fun _ => ⟨rfl, rfl⟩, trivial, trivial⟩⟩
  | @connective tag left right c known plainLeft plainRight groupedLeft groupedRight =>
    rw [dual_connective known, Grouped, Grouped, groupedLeft, groupedRight, plainLeft.joins_dual,
      plainRight.joins_dual, known, Tag.operator?_known]
    have sameRole : some c.opposite.operator = some outer.operator ↔
        some c.operator = some outer.opposite.operator := by
      cases c <;> cases outer <;> decide
    rw [sameRole]
  | @group content _ grouped => exact grouped_ungrouped.trans grouped

def equalsZero (field : String) : Operand :=
  .expression (.known .eq) (.key field) (.value (.scalar (.int 0)))

/-- The filter in which every comparison asks whether the field is zero. -/
def filled (field : String) : Operand → Operand
  | .group content => .group (content.filled field)
  | .expression tag left right =>
    match tag.operator? with
    | some .and | some .or => .expression tag (left.filled field) (right.filled field)
    | _ => equalsZero field
  | t => t

theorem filled_connective {tag : Tag} {c : Connective} (known : tag.operator? = some c.operator)
    (field : String) (left right : Operand) :
    (Operand.expression tag left right).filled field =
      .expression tag (left.filled field) (right.filled field) := by
  cases c <;> simp only [Connective.operator] at known <;> rw [filled, known]

theorem filled_comparison {tag : Tag} {op : Operator} (known : tag.operator? = some op)
    (compares : op.isLogical = false) (field : String) (left right : Operand) :
    (Operand.expression tag left right).filled field = equalsZero field := by
  rw [filled, known]
  cases op <;> simp_all [Operator.isLogical]

theorem Plain.sameShape_filled {t : Operand} (plain : t.Plain) (field : String) :
    t.SameShape (t.filled field) := by
  induction plain with
  | comparison field' v known compares =>
    rw [filled_comparison known compares]
    exact .comparison field' field v _ known compares rfl rfl
  | connective c known _ _ left right =>
    rw [filled_connective known]
    exact .connective c known known left right
  | group _ content => exact .group content

theorem Plain.truth_filled {t : Operand} (plain : t.Plain) (I : Interpretation Bool) (field : String) :
    (t.filled field).truth I = I.holds .eq field (.scalar (.int 0)) := by
  induction plain with
  | comparison _ _ known compares =>
    rw [filled_comparison known compares]
    rfl
  | connective c known _ _ left right =>
    rw [filled_connective known, truth_connective I known, left, right]
    cases c
    · exact Bool.and_self _
    · exact Bool.or_self _
  | group _ content => exact content

theorem chain_holds_ungrouped {truth : Atom Value → Bool} (t : Operand) :
    t.ungrouped.chain.holds truth = t.chain.holds truth := by
  cases t with
  | group content =>
    rw [chain, Chain.holds, Chain.holds, Chain.holdsAfter, Part.holds, Bool.true_and, ungrouped]
  | key | value | expression | unfit | foreign => rfl

/-- Where every comparison fails, the negation reads as true, and goes on doing so next to others. -/
theorem Plain.firm_dual_filled {t : Operand} (plain : t.Plain) {I : Interpretation Bool} {field : String}
    (fails : I.holds .eq field (.scalar (.int 0)) = false) :
    (t.filled field).dual.chain.Firm (Atom.holds I) := by
  induction plain with
  | comparison _ _ known compares =>
    have differs : I.holds .ne field (.scalar (.int 0)) = true := by
      have paired : I.holds .ne field (.scalar (.int 0)) = !I.holds .eq field (.scalar (.int 0)) :=
        I.complementary field _ rfl rfl
      rw [paired, fails]
      rfl
    rw [filled_comparison known compares, equalsZero, dual_comparison rfl rfl rfl, chain_comparison rfl rfl]
    exact Chain.firm_last differs
  | connective c known _ _ left right =>
    rw [filled_connective known, dual_connective known, chain_connective (Tag.operator?_known _)]
    exact left.append right c.opposite
  | group _ content =>
    rw [filled, Operand.dual, chain]
    refine Chain.firm_last ?_
    rw [Part.holds]
    exact (chain_holds_ungrouped _).trans content.1

theorem holds_dual_of_group {content : Operand} {truth : Atom Value → Bool}
    (holds : content.dual.chain.holds truth = true) :
    (Operand.group content).dual.chain.holds truth = true := by
  have inner := (chain_holds_ungrouped content.dual).trans holds
  rw [Operand.dual, chain, Chain.holds, Chain.holdsAfter, Part.holds, Bool.true_and]
  exact inner

theorem holds_dual_of_connective {tag : Tag} {c : Connective} (known : tag.operator? = some c.operator)
    {left right : Operand} {truth : Atom Value → Bool}
    (holds : (left.dual.chain.append c.opposite right.dual.chain).holds truth = true) :
    (Operand.expression tag left right).dual.chain.holds truth = true := by
  rw [dual_connective known, chain_connective (Tag.operator?_known _)]
  exact holds

/-- A disjunction with an ungrouped conjunction below it can hold while its negation reads as true: the
negation of the conjunction is cut in two by what is negated next to it. -/
theorem holds_dual_of_conjunct {tag : Tag} {left right : Operand} (known : tag.operator? = some .or)
    (plainLeft : left.Plain) (plainRight : right.Plain)
    (mixed : left.joins .and = true ∨ right.joins .and = true) {I : Interpretation Bool} {good bad : String}
    (holds : I.holds .eq good (.scalar (.int 0)) = true) (fails : I.holds .eq bad (.scalar (.int 0)) = false) :
    ∃ u, (Operand.expression tag left right).SameShape u ∧ u.truth I = true ∧
      u.dual.chain.holds (Atom.holds I) = true := by
  have outer : tag.operator? = some Connective.or.operator := known
  have shape (first second : String) := SameShape.connective .or outer outer
    (plainLeft.sameShape_filled first) (plainRight.sameShape_filled second)
  rcases mixed with inLeft | inRight
  · refine ⟨_, shape bad good, ?_, holds_dual_of_connective outer ?_⟩
    · rw [truth_connective I outer, plainRight.truth_filled I, holds]
      exact Bool.or_true _
    · cases plainLeft with
      | comparison field v inner compares => simp [joins_comparison inner compares] at inLeft
      | connective k inner first second =>
        simp only [joins_connective inner, decide_eq_true_eq] at inLeft
        subst inLeft
        rw [filled_connective inner, dual_connective inner, chain_connective (Tag.operator?_known _),
          Connective.opposite, Connective.opposite, Chain.append_assoc, Chain.holds, Chain.holdsAfter_append_or,
          Bool.or_eq_true]
        exact Or.inl (first.firm_dual_filled fails).1
      | group => exact absurd inLeft Bool.false_ne_true
  · refine ⟨_, shape good bad, ?_, holds_dual_of_connective outer ?_⟩
    · rw [truth_connective I outer, plainLeft.truth_filled I, holds]
      rfl
    · cases plainRight with
      | comparison field v inner compares => simp [joins_comparison inner compares] at inRight
      | connective k inner first second =>
        simp only [joins_connective inner, decide_eq_true_eq] at inRight
        subst inRight
        rw [filled_connective inner, dual_connective inner, chain_connective (Tag.operator?_known _),
          Connective.opposite, Connective.opposite, ← Chain.append_assoc, Chain.holds,
          Chain.holdsAfter_append_or, Bool.or_eq_true]
        exact Or.inr (second.firm_dual_filled fails).1
      | group => exact absurd inRight Bool.false_ne_true

/-- Wherever a conjunction is left ungrouped under a disjunction, comparisons can be chosen such that the
filter holds and its written negation reads as true all the same. -/
theorem Plain.misread_of_not_grouped {t : Operand} (plain : t.Plain) (mixed : ¬t.Grouped .and .or)
    {I : Interpretation Bool} {good bad : String} (holds : I.holds .eq good (.scalar (.int 0)) = true)
    (fails : I.holds .eq bad (.scalar (.int 0)) = false) :
    ∃ u, t.SameShape u ∧ u.truth I = true ∧ u.dual.chain.holds (Atom.holds I) = true := by
  induction plain with
  | comparison => exact absurd ⟨fun _ => ⟨rfl, rfl⟩, trivial, trivial⟩ mixed
  | @connective tag left right c known plainLeft plainRight misreadLeft misreadRight =>
    -- The mixed place is the root itself, or lies in a side that is misread for a filling of its fields; the
    -- other side is filled so that it leaves both the truth and the reading to that one.
    by_cases groupedLeft : left.Grouped .and .or
    · by_cases groupedRight : right.Grouped .and .or
      · have direct : tag.operator? = some .or ∧ (left.joins .and = true ∨ right.joins .and = true) := by
          refine Classical.byContradiction fun apart => mixed ⟨fun outer => ?_, groupedLeft, groupedRight⟩
          have neither := not_or.1 fun either => apart ⟨outer, either⟩
          exact ⟨Bool.eq_false_iff.2 neither.1, Bool.eq_false_iff.2 neither.2⟩
        exact holds_dual_of_conjunct direct.1 plainLeft plainRight direct.2 holds fails
      · obtain ⟨u, shape, true_, reads⟩ := misreadRight groupedRight
        cases c with
        | and =>
          refine ⟨_, .connective .and known known (plainLeft.sameShape_filled good) shape, ?_,
            holds_dual_of_connective known ?_⟩
          · rw [truth_connective I known, plainLeft.truth_filled I, holds, true_]
            rfl
          · rw [Connective.opposite, Chain.holds, Chain.holdsAfter_append_or, Bool.or_eq_true]
            exact Or.inr reads
        | or =>
          refine ⟨_, .connective .or known known (plainLeft.sameShape_filled bad) shape, ?_,
            holds_dual_of_connective known ?_⟩
          · rw [truth_connective I known, true_]
            exact Bool.or_true _
          · exact (plainLeft.firm_dual_filled fails).2 _ reads
    · obtain ⟨u, shape, true_, reads⟩ := misreadLeft groupedLeft
      cases c with
      | and =>
        refine ⟨_, .connective .and known known shape (plainRight.sameShape_filled good), ?_,
          holds_dual_of_connective known ?_⟩
        · rw [truth_connective I known, plainRight.truth_filled I, holds, true_]
          rfl
        · rw [Connective.opposite, Chain.holds, Chain.holdsAfter_append_or, Bool.or_eq_true]
          exact Or.inl reads
      | or =>
        refine ⟨_, .connective .or known known shape (plainRight.sameShape_filled bad), ?_,
          holds_dual_of_connective known ?_⟩
        · rw [truth_connective I known, true_]
          rfl
        · exact Chain.holdsAfter_append_of_holds reads (plainRight.firm_dual_filled fails).1
  | group _ misread =>
    obtain ⟨u, shape, true_, reads⟩ := misread mixed
    exact ⟨.group u, .group shape, true_, holds_dual_of_group reads⟩

end Operand

/-- A filter is written with a meaning if the tokens that a dialect writes for it, read with brackets before
conjunctions and conjunctions before disjunctions, have that truth. -/
def Operand.WrittenAs (d : Dialect) (settings : Settings) (t : Operand)
    (meaning : Interpretation Bool → Bool) : Prop :=
  ∃ p, t.resolved = .ok p ∧ d.render settings t = .ok (d.tokensText settings p.chain.tokens) ∧
    ∀ I : Interpretation Bool, I.SettlesEmpty →
      Token.evaluate (Atom.holds I) p.chain.tokens = some (meaning I)

namespace Operand

theorem Plain.resolved_eq {t : Operand} (plain : t.Plain) : t.resolved = .ok t := by
  induction plain with
  | comparison field v known compares => exact resolved_comparison known compares _ _
  | connective c known _ _ left right =>
    rw [resolved_connective known, left, right]
    rfl
  | group _ content =>
    rw [resolved, content]
    rfl

theorem Plain.resolved_negation {t : Operand} (plain : t.Plain) : t.negation.resolved = .ok t.dual :=
  plain.negate_eq

theorem Plain.writtenAs {t : Operand} (plain : t.Plain) (grouped : t.Grouped .or .and) {d : Dialect}
    (spells : d.Infix) (settings : Settings) : t.WrittenAs d settings fun I => t.truth I := by
  refine ⟨t, plain.resolved_eq, Dialect.render_of_writes (plain.writes spells), fun I settled => ?_⟩
  rw [Chain.evaluate_tokens, (plain.chain_reads grouped settled).2]

theorem Plain.render_negation {t : Operand} (plain : t.Plain) {d : Dialect} (spells : d.Infix)
    (settings : Settings) :
    d.render settings t.negation = .ok (d.tokensText settings t.dual.chain.tokens) := by
  apply Dialect.render_of_writes
  rw [negation, write_negation (Tag.operator?_known _) plain.negate_eq]
  exact plain.dual.writes spells

theorem Plain.writtenAs_negation {t : Operand} (plain : t.Plain) (grouped : t.Grouped .and .or) {d : Dialect}
    (spells : d.Infix) (settings : Settings) : t.negation.WrittenAs d settings fun I => !t.truth I := by
  have groupedDual : t.dual.Grouped .or .and := plain.grouped_dual.2 grouped
  refine ⟨t.dual, plain.resolved_negation, plain.render_negation spells settings, fun I settled => ?_⟩
  rw [Chain.evaluate_tokens, (plain.dual.chain_reads groupedDual settled).2, plain.truth_dual I]
  rfl

end Operand

/-- Filters of one shape that are written faithfully have faithfully written negations if and only if no
conjunction is left ungrouped directly under a disjunction: negation turns the two around and adds no group. -/
theorem negation_written_faithfully_iff (store : Store) (given : Option String) (settings : Settings)
    {t : Operand} (plain : t.Plain) (grouped : t.Grouped .or .and) :
    (∀ u, t.SameShape u →
      u.WrittenAs (store.dialect given) settings (fun I => u.truth I) ∧
        u.negation.WrittenAs (store.dialect given) settings fun I => !u.truth I) ↔
      t.Grouped .and .or := by
  have spells := store.isInfix given
  constructor
  · refine fun faithful => Classical.byContradiction fun mixed => ?_
    have settled := Interpretation.settlesEmpty_ofField "good"
    have holds : (Interpretation.ofField "good").holds .eq "good" (.scalar (.int 0)) = true := rfl
    have fails : (Interpretation.ofField "good").holds .eq "bad" (.scalar (.int 0)) = false := rfl
    obtain ⟨u, shape, true_, reads⟩ := plain.misread_of_not_grouped mixed holds fails
    obtain ⟨p, run, _, written⟩ := (faithful u shape).2
    have same : u.dual = p := Except.ok.inj (shape.plain.resolved_negation.symm.trans run)
    have value : Token.evaluate (Atom.holds (.ofField "good")) p.chain.tokens =
      some !u.truth (.ofField "good") := written _ settled
    rw [← same, Chain.evaluate_tokens, reads, true_] at value
    cases value
  · intro separate u shape
    exact ⟨shape.plain.writtenAs (shape.grouped grouped) spells settings,
      shape.plain.writtenAs_negation (shape.grouped separate) spells settings⟩

/-- A negated disjunction keeps its meaning if the conjunction below it is in a group. -/
theorem negation_of_grouped_conjunction_written :
    let conjunction := Operand.expression (.known .and) (.equalsZero "b") (.equalsZero "c")
    let t := Operand.expression (.known .or) (.equalsZero "a") (.group conjunction)
    t.Plain ∧ t.Grouped .or .and ∧ t.Grouped .and .or ∧
      t.negation.WrittenAs (Store.milvus.dialect none) default fun I => !t.truth I := by
  intro conjunction t
  have zero (field : String) : (Operand.equalsZero field).Plain :=
    .comparison field (.scalar (.int 0)) (Tag.operator?_known .eq) rfl
  have plain : t.Plain := .connective .or (Tag.operator?_known .or) (zero "a")
    (.group (.connective .and (Tag.operator?_known .and) (zero "b") (zero "c")))
  have grouped : t.Grouped .or .and := by
    simp [t, conjunction, Operand.Grouped, Operand.equalsZero, Operand.joins, Connective.operator]
  have separate : t.Grouped .and .or := by
    simp [t, conjunction, Operand.Grouped, Operand.equalsZero, Operand.joins, Connective.operator]
  have faithful := (negation_written_faithfully_iff .milvus none default plain grouped).2 separate
  exact ⟨plain, grouped, separate, (faithful t plain.sameShape).2⟩

/-- The filter `a = 0 OR b = 0 AND c = 0` means what its text says, but its negation is written without the
brackets that would keep the negated conjunction together. -/
theorem negation_of_ungrouped_conjunction_misread :
    let conjunction := Operand.expression (.known .and) (.equalsZero "b") (.equalsZero "c")
    let t := Operand.expression (.known .or) (.equalsZero "a") conjunction
    t.Plain ∧ t.Grouped .or .and ∧
      (Store.generic.dialect none).render default t.negation = .ok "'$.a' != 0 AND '$.b' != 0 OR '$.c' != 0" ∧
      ¬t.negation.WrittenAs (Store.generic.dialect none) default fun I => !t.truth I := by
  intro conjunction t
  have zero (field : String) : (Operand.equalsZero field).Plain :=
    .comparison field (.scalar (.int 0)) (Tag.operator?_known .eq) rfl
  have plain : t.Plain := .connective .or (Tag.operator?_known .or) (zero "a")
    (.connective .and (Tag.operator?_known .and) (zero "b") (zero "c"))
  have grouped : t.Grouped .or .and := by
    simp [t, conjunction, Operand.Grouped, Operand.equalsZero, Operand.joins, Connective.operator]
  refine ⟨plain, grouped, ?_, ?_⟩
  · rw [plain.render_negation (Store.generic.isInfix none)]
    rfl
  · rintro ⟨p, run, _, written⟩
    have same : t.dual = p := Except.ok.inj (plain.resolved_negation.symm.trans run)
    have value := written _ (Interpretation.settlesEmpty_ofField "a")
    rw [← same, Chain.evaluate_tokens] at value
    exact absurd value (by decide)

end FieldFilter
