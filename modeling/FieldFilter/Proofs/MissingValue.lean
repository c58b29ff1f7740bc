import FieldFilter.Proofs.Settled

namespace FieldFilter

namespace Writer

/-- The action writes the text, whatever buffer it is given, and then fails. -/
def StopsAfter (w : Writer) (s : String) (e : FilterError) : Prop :=
  ∀ b, w b = .error e (b.append s)

/-- The first action writes what the second one does, to the end or up to where it fails. The second one does not
fail. -/
def Follows (w w' : Writer) : Prop :=
  (∃ s, w.Writes s ∧ w'.Writes s) ∨ ∃ s rest e, w.StopsAfter s e ∧ w'.Writes (s ++ rest)

theorem Follows.writes {w w' : Writer} (follows : w.Follows w') : ∃ s, w'.Writes s := by
  rcases follows with ⟨s, _, writes⟩ | ⟨s, rest, _, _, writes⟩
  · exact ⟨s, writes⟩
  · exact ⟨s ++ rest, writes⟩

/-- An action that fails at once follows every other one. -/
theorem follows_throw {w' : Writer} {s : String} (e : FilterError) (writes : w'.Writes s) :
    Follows (throw e) w' := by
  refine Or.inr ⟨"", s, e, fun b => congrArg (EStateM.Result.error e) b.append_empty.symm, ?_⟩
  rw [String.empty_append]
  exact writes

theorem Follows.seq {first first' second second' : Writer} (begins : first.Follows first')
    (continues : second.Follows second') : Follows (do first; second) (do first'; second') := by
  rcases begins with ⟨s, writes, writes'⟩ | ⟨s, rest, e, stops, writes'⟩
  · rcases continues with ⟨u, later, later'⟩ | ⟨u, rest, e, stops, later'⟩
    · exact Or.inl ⟨s ++ u, writes.seq later, writes'.seq later'⟩
    · refine Or.inr ⟨s ++ u, rest, e, fun b => ?_, ?_⟩
      · simp only [bind, EStateM.bind, writes b, stops (b.append s), TextBuffer.append_append]
      · rw [String.append_assoc]
        exact writes'.seq later'
  · obtain ⟨u, later'⟩ := continues.writes
    refine Or.inr ⟨s, rest ++ u, e, fun b => ?_, ?_⟩
    · simp only [bind, EStateM.bind, stops b]
    · rw [← String.append_assoc]
      exact writes'.seq later'

/-- Where an action stops, it has written the beginning of what the action that it follows writes. -/
theorem Follows.begins {w w' : Writer} {s : String} {e : FilterError} (follows : w.Follows w')
    (stops : w.StopsAfter s e) : ∃ rest, w'.Writes (s ++ rest) := by
  have stopped := stops .empty
  rcases follows with ⟨u, writes, _⟩ | ⟨u, rest, e', stops', writes'⟩
  · rw [writes .empty] at stopped
    cases stopped
  · rw [stops' .empty] at stopped
    simp only [EStateM.Result.error.injEq, TextBuffer.append, TextBuffer.empty, TextBuffer.mk.injEq,
      String.empty_append] at stopped
    exact ⟨rest, stopped.2.1 ▸ writes'⟩

end Writer

namespace Operand

/-- The second filter is the first one with values given to all comparisons that lack one. These have nothing on
their right sides, or a node that is no value; all else is well-formed. -/
inductive Completes : Operand → Operand → Prop
  | valued {tag : Tag} {op : Operator} (field : String) (v : Value) :
      tag.operator? = some op → op.isLogical = false →
      Completes (.expression tag (.key field) (.value v)) (.expression tag (.key field) (.value v))
  | given {tag : Tag} {op : Operator} {right : Operand} (field : String) (v : Value) :
      tag.operator? = some op → op.isLogical = false → right.isValue = false →
      right.isAbsent = true ∨ right.isNode = true →
      Completes (.expression tag (.key field) right) (.expression tag (.key field) (.value v))
  | connective {tag : Tag} {left right left' right' : Operand} (c : Connective) :
      tag.operator? = some c.operator → Completes left left' → Completes right right' →
      Completes (.expression tag left right) (.expression tag left' right')
  | negation {tag : Tag} {left left' : Operand} (right : Operand) :
      tag.operator? = some .not → Completes left left' →
      Completes (.expression tag left right) (.expression tag left' right)
  | group {content content' : Operand} : Completes content content' →
      Completes (.group content) (.group content')

/-- A filter that is well-formed but for values that its comparisons lack. -/
def Draft (t : Operand) : Prop :=
  ∃ u, t.Completes u

theorem Completes.wellFormed {t u : Operand} (completes : t.Completes u) : u.WellFormed := by
  induction completes with
  | valued field v known compares => exact .comparison field v known compares
  | given field v known compares _ _ => exact .comparison field v known compares
  | connective c known _ _ left right => exact .connective c known left right
  | negation right known _ left => exact .negation right known left
  | group _ content => exact .group content

theorem Completes.ungrouped {t u : Operand} (completes : t.Completes u) : t.ungrouped.Completes u.ungrouped := by
  cases completes with
  | valued field v known compares => exact .valued field v known compares
  | given field v known compares bare node => exact .given field v known compares bare node
  | connective c known left right => exact .connective c known left right
  | negation right known left => exact .negation right known left
  | group content => exact content

/-- Negations do not look at the values of comparisons: drafts and their completions are pushed alike. -/
theorem Completes.push {t u : Operand} (completes : t.Completes u) (kept : Bool) :
    ∃ p q, t.push kept = .ok p ∧ u.push kept = .ok q ∧ p.Completes q := by
  induction completes generalizing kept with
  | @valued tag op field v known compares =>
    have sides : SidesAreNodes (.key field) (.value v) := ⟨rfl, Or.inr rfl⟩
    have pushed : (expression tag (.key field) (.value v)).push kept =
        .ok (.expression (.known (op.signed kept)) (.key field) (.value v)) :=
      (push_comparison_eq_ok_iff known compares).2 ⟨sides, rfl⟩
    exact ⟨_, _, pushed, pushed, .valued field v (Tag.operator?_known _) (Operator.isLogical_signed compares kept)⟩
  | given field v known compares bare node =>
    exact ⟨_, _, (push_comparison_eq_ok_iff known compares).2 ⟨⟨rfl, node⟩, rfl⟩,
      (push_comparison_eq_ok_iff known compares).2 ⟨⟨rfl, Or.inr rfl⟩, rfl⟩,
      .given field v (Tag.operator?_known _) (Operator.isLogical_signed compares kept) bare node⟩
  | connective c known _ _ ihLeft ihRight =>
    obtain ⟨p, q, pushedLeft, pushedLeft', left⟩ := ihLeft kept
    obtain ⟨p', q', pushedRight, pushedRight', right⟩ := ihRight kept
    exact ⟨_, _, (push_connective_eq_ok_iff known).2 ⟨p, p', pushedLeft, pushedRight, rfl⟩,
      (push_connective_eq_ok_iff known).2 ⟨q, q', pushedLeft', pushedRight', rfl⟩,
      .connective (c.signed kept) (Tag.operator?_known _) left right⟩
  | @negation tag left left' right known _ ih =>
    rw [push_negation kept left right known, push_negation kept left' right known]
    exact ih !kept
  | group _ ih =>
    obtain ⟨p, q, pushed, pushed', content⟩ := ih kept
    exact ⟨_, _, push_group_eq_ok_iff.2 ⟨p, pushed, rfl⟩, push_group_eq_ok_iff.2 ⟨q, pushed', rfl⟩,
      .group content.ungrouped⟩

/-- What is written for a draft follows what is written for its completions. -/
theorem Completes.write_follows {t u : Operand} (completes : t.Completes u) {d : Dialect} (spells : d.Infix)
    (settings : Settings) : (t.write d settings).Follows (u.write d settings) := by
  induction size : t.size using Nat.strongRecOn generalizing t u with
  | ind n ih =>
    subst size
    cases completes with
    | @valued tag _ field v known compares =>
      have writes : ((expression tag (.key field) (.value v)).write d settings).Writes _ :=
        writes_comparison spells known compares field v
      exact Or.inl ⟨_, writes, writes⟩
    | given field v known compares bare _ =>
      rw [write_malformed (by rw [known, Option.any_some, compares]) bare]
      exact Writer.follows_throw _ (writes_comparison spells known compares field v)
    | @connective tag left right left' right' c known completesLeft completesRight =>
      have symbol := spells.writes_symbol known c.operator_ne_not
      have rest : Writer.Follows
          (do Writer.appendOr (d.symbolText tag); right.write d settings; pure ())
          (do Writer.appendOr (d.symbolText tag); right'.write d settings; pure ()) :=
        .seq (.inl ⟨_, symbol, symbol⟩)
          ((ih right.size (by simp only [size]; omega) completesRight rfl).seq
            (.inl ⟨"", Writer.writes_pure, Writer.writes_pure⟩))
      rw [write_connective spells known, write_connective spells known]
      exact (ih left.size (by simp only [size]; omega) completesLeft rfl).seq rest
    | @negation tag left left' right known inner =>
      obtain ⟨p, q, pushed, pushed', negated⟩ := inner.push false
      rw [← negate_eq_push] at pushed pushed'
      have shrunk := size_le_of_negate pushed
      rw [write_negation known pushed right, write_negation known pushed' right]
      exact ih p.size (by simp only [size]; omega) negated rfl
    | @group content content' inner =>
      have opening := Writer.writes_append d.groupOpen
      have closing := Writer.writes_append d.groupClose
      rw [write_group, write_group]
      exact .seq (.inl ⟨_, opening, opening⟩) ((ih content.size (by simp [size]) inner rfl).seq
        (.inl ⟨_, closing, closing⟩))

/-- The leaves of a filter from left to right, each with the number of negations above it. -/
def countedLeaves : Operand → List (Nat × Operand)
  | .group content => content.countedLeaves
  | .expression tag left right =>
    match tag.operator? with
    | some .and | some .or => left.countedLeaves ++ right.countedLeaves
    | some .not => left.countedLeaves.map fun leaf => (leaf.1 + 1, leaf.2)
    | _ => [(0, .expression tag left right)]
  | t => [(0, t)]

theorem countedLeaves_connective {tag : Tag} {c : Connective} (known : tag.operator? = some c.operator)
    (left right : Operand) :
    (Operand.expression tag left right).countedLeaves = left.countedLeaves ++ right.countedLeaves := by
  cases c <;> simp only [Connective.operator] at known <;> rw [countedLeaves, known]

theorem countedLeaves_negation {tag : Tag} (known : tag.operator? = some .not) (left right : Operand) :
    (Operand.expression tag left right).countedLeaves =
      left.countedLeaves.map fun leaf => (leaf.1 + 1, leaf.2) := by
  rw [countedLeaves, known]

theorem countedLeaves_comparison {tag : Tag} {op : Operator} (known : tag.operator? = some op)
    (compares : op.isLogical = false) (left right : Operand) :
    (Operand.expression tag left right).countedLeaves = [(0, .expression tag left right)] := by
  rw [countedLeaves, known]
  cases op <;> simp_all [Operator.isLogical]

/-- The fault of a leaf, if it is a comparison without a value. What it is reported with depends on its tag and on
the negations above it. -/
def missingValue? (reported : Nat → Tag → Tag) (leaf : Nat × Operand) : Option FilterError :=
  match leaf.2 with
  | .expression tag _ right =>
    if right.isValue then none else some (.malformed (reported leaf.1 tag) right.typeName)
  | _ => none

end Operand

namespace Tag

/-- The tag under a sign: a sign puts an operator of the language in its place. -/
def signed (tag : Tag) (kept : Bool) : Tag :=
  (tag.operator?.map fun op => Tag.known (op.signed kept)).getD tag

/-- The tag that a comparison has once the negations above it are carried out. -/
def below (tag : Tag) : Nat → Tag
  | 0 => tag
  | n + 1 => tag.signed ((n + 1) % 2 == 0)

theorem signed_eq {tag : Tag} {op : Operator} (known : tag.operator? = some op) (kept : Bool) :
    tag.signed kept = .known (op.signed kept) := by
  rw [signed, known]
  rfl

end Tag

namespace Operand

/-- The fault of a comparison of a field is that of its only leaf. -/
theorem fault_comparison_of_field {tag : Tag} {op : Operator} (known : tag.operator? = some op)
    (compares : op.isLogical = false) (field : String) (right : Operand) (store : Store) :
    let t := Operand.expression tag (.key field) right
    t.fault store = t.countedLeaves.findSome? (missingValue? fun n tag => tag.below n) ∧
      ∀ kept, t.faultPushed store kept =
        t.countedLeaves.findSome? (missingValue? fun n tag => tag.signed (kept == (n % 2 == 0))) := by
  intro t
  have leaf (reported : Nat → Tag → Tag) :
      comparisonFault (reported 0 tag) right none = t.countedLeaves.findSome? (missingValue? reported) := by
    rw [countedLeaves_comparison known compares, List.findSome?_singleton, comparisonFault]
    cases valued : right.isValue <;> simp [missingValue?, valued]
  refine ⟨?_, fun kept => ?_⟩
  · rw [← leaf, fault_comparison store _ right known compares]
    rfl
  · rw [← leaf, faultPushed_comparison store kept _ right known compares, Tag.signed_eq known]
    cases kept <;> rfl

/-- The fault of a draft is that of its first leaf that has one. Negations do not get in the way, but show in the
tag that is reported. -/
theorem Completes.fault_eq {t u : Operand} (completes : t.Completes u) (store : Store) :
    t.fault store = t.countedLeaves.findSome? (missingValue? fun n tag => tag.below n) ∧
      ∀ kept, t.faultPushed store kept =
        t.countedLeaves.findSome? (missingValue? fun n tag => tag.signed (kept == (n % 2 == 0))) := by
  induction completes with
  | valued field v known compares => exact fault_comparison_of_field known compares field _ store
  | given field v known compares _ _ => exact fault_comparison_of_field known compares field _ store
  | connective c known _ _ ihLeft ihRight =>
    refine ⟨?_, fun kept => ?_⟩
    · rw [fault_connective store _ _ known, countedLeaves_connective known, List.findSome?_append, ihLeft.1,
        ihRight.1]
    · rw [faultPushed_connective store kept _ _ known, countedLeaves_connective known, List.findSome?_append,
        ihLeft.2 kept, ihRight.2 kept]
  | @negation tag left left' right known inner ih =>
    -- One more negation above every leaf turns all signs around.
    have deeper (reported : Nat → Tag → Tag) :
        (Operand.expression tag left right).countedLeaves.findSome? (missingValue? reported) =
          left.countedLeaves.findSome? (missingValue? fun n => reported (n + 1)) := by
      rw [countedLeaves_negation known, List.findSome?_map]
      rfl
    have turned (kept : Bool) (n : Nat) : (kept == ((n + 1) % 2 == 0)) = ((!kept) == (n % 2 == 0)) := by
      rw [even_succ]
      cases kept <;> simp
    obtain ⟨p, q, pushed, _⟩ := inner.push false
    refine ⟨?_, fun kept => ?_⟩
    · have even (n : Nat) : (false == (n % 2 == 0)) = ((n + 1) % 2 == 0) := by rw [even_succ, Bool.false_beq]
      rw [fault, known, pushed, deeper]
      simp only [Tag.below, ← even]
      exact ih.2 false
    · rw [faultPushed_negation store kept left right known, deeper, ih.2]
      simp only [turned]
  | group _ ih => exact ih

/-- The leaves of a draft are comparisons of fields, with values that could have been checked or without any. -/
theorem Completes.leaf_cases {t u : Operand} (completes : t.Completes u) :
    ∀ leaf ∈ t.countedLeaves, ∃ tag op field right, leaf.2 = .expression tag (.key field) right ∧
      tag.operator? = some op ∧ op.isLogical = false ∧ ((∃ v, right = .value v) ∨ right.isValue = false) := by
  induction completes with
  | valued field v known compares =>
    rw [countedLeaves_comparison known compares, List.forall_mem_singleton]
    exact ⟨_, _, field, _, rfl, known, compares, Or.inl ⟨v, rfl⟩⟩
  | given field v known compares bare _ =>
    rw [countedLeaves_comparison known compares, List.forall_mem_singleton]
    exact ⟨_, _, field, _, rfl, known, compares, Or.inr bare⟩
  | connective c known _ _ ihLeft ihRight =>
    rw [countedLeaves_connective known, List.forall_mem_append]
    exact ⟨ihLeft, ihRight⟩
  | negation right known _ ih =>
    rw [countedLeaves_negation known, List.forall_mem_map]
    exact ih
  | group _ ih => exact ih

/-- A leaf of a draft that has no fault is a complete comparison. -/
theorem Completes.wellFormed_of_leaf {t u : Operand} (completes : t.Completes u) {reported : Nat → Tag → Tag}
    {leaf : Nat × Operand} (member : leaf ∈ t.countedLeaves) (faultless : missingValue? reported leaf = none) :
    leaf.2.WellFormed := by
  obtain ⟨n, x⟩ := leaf
  obtain ⟨tag, op, field, right, shape, known, compares, ⟨v, rfl⟩ | bare⟩ := completes.leaf_cases _ member
  · subst shape
    exact .comparison field v known compares
  · subst shape
    simp [missingValue?, bare] at faultless

/-- A draft is complete if all of its leaves are. -/
theorem Completes.wellFormed_of_leaves {t u : Operand} (completes : t.Completes u)
    (complete : ∀ leaf ∈ t.countedLeaves, leaf.2.WellFormed) : t.WellFormed := by
  induction completes with
  | valued field v known compares => exact .comparison field v known compares
  | given field v known compares _ _ =>
    rw [countedLeaves_comparison known compares, List.forall_mem_singleton] at complete
    exact complete
  | connective c known _ _ ihLeft ihRight =>
    rw [countedLeaves_connective known, List.forall_mem_append] at complete
    exact .connective c known (ihLeft complete.1) (ihRight complete.2)
  | negation right known _ ih =>
    rw [countedLeaves_negation known, List.forall_mem_map] at complete
    exact .negation right known (ih complete)
  | group _ ih => exact .group (ih complete)

/-- The leftmost comparison without a value, of which the tag and the right side are given, has that many negations
above it. -/
def FirstLacksValue (t : Operand) (negations : Nat) (tag : Tag) (right : Operand) : Prop :=
  ∃ before field after, t.countedLeaves = before ++ (negations, .expression tag (.key field) right) :: after ∧
    (∀ leaf ∈ before, leaf.2.WellFormed) ∧ right.isValue = false

/-- A draft that is not complete lacks a first value, and has the fault of that comparison. -/
theorem Completes.firstLacksValue {t u : Operand} (completes : t.Completes u) (incomplete : ¬t.WellFormed)
    (store : Store) :
    ∃ n tag op right, t.FirstLacksValue n tag right ∧ tag.operator? = some op ∧ op.isLogical = false ∧
      t.fault store = some (.malformed (tag.below n) right.typeName) := by
  rw [(completes.fault_eq store).1]
  cases found : t.countedLeaves.findSome? (missingValue? fun n tag => tag.below n) with
  | none =>
    rw [List.findSome?_eq_none_iff] at found
    exact absurd (completes.wellFormed_of_leaves fun leaf member =>
      completes.wellFormed_of_leaf member (found leaf member)) incomplete
  | some e =>
    obtain ⟨before, ⟨n, x⟩, after, split, faulty, passed⟩ := List.findSome?_eq_some_iff.1 found
    have members (leaf : Nat × Operand) (member : leaf ∈ before ++ (n, x) :: after) : leaf ∈ t.countedLeaves :=
      split ▸ member
    obtain ⟨tag, op, field, right, shape, known, compares, sort⟩ := completes.leaf_cases _ (members (n, x) (by simp))
    cases shape
    have bare : right.isValue = false := by
      rcases sort with ⟨v, rfl⟩ | bare
      · cases faulty
      · exact bare
    have first : ∀ leaf ∈ before, leaf.2.WellFormed := fun leaf member =>
      completes.wellFormed_of_leaf (members leaf (List.mem_append_left _ member)) (passed leaf member)
    refine ⟨n, tag, op, right, ⟨before, field, after, split, first, bare⟩, known, compares, ?_⟩
    rw [← faulty]
    simp [missingValue?, bare]

end Operand

/-- What is reported for a comparison is its own operator below an even number of negations, and the opposite one
below an odd number. -/
theorem Tag.operator?_below {tag : Tag} {op : Operator} (known : tag.operator? = some op)
    (compares : op.isLogical = false) (n : Nat) :
    (n % 2 = 0 → (tag.below n).operator? = some op) ∧ (n % 2 = 1 → (tag.below n).operator? = op.opposite?) := by
  cases n with
  | zero => exact ⟨fun _ => known, fun odd => by cases odd⟩
  | succ n =>
    obtain ⟨other, paired, _⟩ := Operator.opposite?_comparison compares
    rw [below, Tag.signed_eq known, Tag.operator?_known]
    refine ⟨fun even => ?_, fun odd => ?_⟩
    · rw [even]
      rfl
    · rw [odd, paired, Operator.signed, paired]
      rfl

/-- A filter that is well-formed but for values that are missing is refused for the leftmost comparison that lacks
one, wherever it is. What is written up to there is the beginning of the text that the filter has with any values
in the missing places. -/
theorem leftmost_missing_value_is_reported (store : Store) (given : Option String) (settings : Settings)
    {t : Operand} (draft : t.Draft) (incomplete : ¬t.WellFormed) :
    ∃ n tag op right reported s, t.FirstLacksValue n tag right ∧ tag.operator? = some op ∧
      (n = 0 → reported = tag) ∧ (n % 2 = 0 → reported.operator? = some op) ∧
      (n % 2 = 1 → reported.operator? = op.opposite?) ∧
      (store.dialect given).render settings t = .error (.malformed reported right.typeName) ∧
      (∀ b, t.write (store.dialect given) settings b = .error (.malformed reported right.typeName) (b.append s)) ∧
      ∀ u, t.Completes u → u.WellFormed ∧ ∃ rest, (store.dialect given).render settings u = .ok (s ++ rest) := by
  obtain ⟨u, completes⟩ := draft
  obtain ⟨n, tag, op, right, first, known, compares, faulty⟩ := completes.firstLacksValue incomplete store
  obtain ⟨even, odd⟩ := Tag.operator?_below known compares n
  have ends := t.write_ends store given settings
  rw [faulty] at ends
  obtain ⟨s, stops⟩ := ends
  refine ⟨n, tag, op, right, tag.below n, s, first, known, fun none => none ▸ rfl, even, odd,
    (t.render_error_iff_fault store given settings _).2 faulty, stops, fun u' completes' => ?_⟩
  obtain ⟨rest, writes⟩ := (completes'.write_follows (store.isInfix given) settings).begins stops
  exact ⟨completes'.wellFormed, rest, Dialect.render_of_writes writes⟩

/-- Nothing is on the right of the last comparison in `NOT (a = 1 OR NOT (NOT (b > _)))`. As three negations are
above it, it is reported as `b <= _`. -/
theorem missing_value_below_three_negations :
    let compared (op : Operator) (field : String) (right : Operand) :=
      Operand.expression (.known op) (.key field) right
    let denied (x : Operand) := Operand.expression (.known .not) x .absent
    let filter (right : Operand) := denied (.expression (.known .or)
      (compared .eq "a" (.value (.scalar (.int 1)))) (denied (denied (.group (compared .gt "b" right)))))
    let t := filter .absent
    let u := filter (.value (.scalar (.int 2)))
    t.Draft ∧ ¬t.WellFormed ∧ ∃ reported s rest, reported.operator? = some .lte ∧
      (Store.pgVector.dialect none).render default t = .error (.malformed reported "NoneType") ∧
      t.write (Store.pgVector.dialect none) default .empty =
        .error (.malformed reported "NoneType") (TextBuffer.empty.append s) ∧
      (Store.pgVector.dialect none).render default u = .ok (s ++ rest) := by
  intro compared denied filter t u
  have completes : t.Completes u := .negation .absent rfl (.connective .or rfl (.valued "a" _ rfl rfl)
    (.negation .absent rfl (.negation .absent rfl (.group (.given "b" _ rfl rfl rfl (Or.inl rfl))))))
  have incomplete : ¬t.WellFormed := fun wellFormed => by
    have sides : t.compared = [(.key "a", .value (.scalar (.int 1))), (.key "b", .absent)] := rfl
    obtain ⟨_, _, valued⟩ := wellFormed.comparesFields (.key "b", .absent) (by simp [sides])
    cases valued
  obtain ⟨n, tag, op, right, reported, s, ⟨before, field, after, split, complete, bare⟩, known, _, even, odd,
    refused, stops, completed⟩ := leftmost_missing_value_is_reported .pgVector none default ⟨u, completes⟩ incomplete
  obtain ⟨_, rest, text⟩ := completed u completes
  have leaves : t.countedLeaves =
      [(1, compared .eq "a" (.value (.scalar (.int 1)))), (3, compared .gt "b" .absent)] := rfl
  rw [leaves] at split
  -- The first leaf has a value, and there are but two.
  match before with
  | [] =>
    obtain ⟨head, _⟩ := List.cons.inj split
    cases head
    cases bare
  | [x] =>
    obtain ⟨_, tail⟩ := List.cons.inj split
    obtain ⟨head, _⟩ := List.cons.inj tail
    cases head
    cases known
    exact ⟨⟨u, completes⟩, incomplete, reported, s, rest, odd rfl, refused, stops .empty, text⟩
  | x :: y :: others => simp at split

end FieldFilter
