import FieldFilter.Proofs.NegatedText
import FieldFilter.Proofs.Settled

namespace FieldFilter

namespace Operand

/-- A chain of negations, which may have no negation in it, that ends in a group. -/
def endsInGroup : Operand → Bool
  | .group _ => true
  | .expression tag left _ => tag.operator? == some .not && left.endsInGroup
  | _ => false

/-- A chain of one or more negations that ends in a group. -/
def deniesGroup (t : Operand) : Bool :=
  t.isExpression && t.endsInGroup

/-- Outside of all negations there is a group that holds one or more negations of a group and nothing else. -/
def regroups : Operand → Bool
  | .group content => content.deniesGroup || content.regroups
  | .expression tag left right =>
    match tag.operator? with
    | some .and | some .or => left.regroups || right.regroups
    | _ => false
  | _ => false

/-- No group of the boolean skeleton stands right inside another one. -/
def GroupsHoldExpressions (t : Operand) : Prop :=
  ∀ content, .group content ∈ t.skeleton → content.isExpression = true

section Equations

variable {tag : Tag} {left right : Operand}

theorem endsInGroup_positive {op : Operator} (known : tag.operator? = some op) (positive : op ≠ .not) :
    (Operand.expression tag left right).endsInGroup = false := by
  rw [endsInGroup, known, Option.some_beq_some, beq_eq_false_iff_ne.2 positive, Bool.false_and]

theorem endsInGroup_negation (known : tag.operator? = some .not) :
    (Operand.expression tag left right).endsInGroup = left.endsInGroup := by
  rw [endsInGroup, known]
  rfl

theorem regroups_connective {c : Connective} (known : tag.operator? = some c.operator) :
    (Operand.expression tag left right).regroups = (left.regroups || right.regroups) := by
  cases c <;> simp only [Connective.operator] at known <;> rw [regroups, known]

theorem regroups_negation (known : tag.operator? = some .not) :
    (Operand.expression tag left right).regroups = false := by
  rw [regroups, known]

theorem regroups_comparison {op : Operator} (known : tag.operator? = some op)
    (compares : op.isLogical = false) :
    (Operand.expression tag left right).regroups = false := by
  rw [regroups, known]
  cases op <;> simp_all [Operator.isLogical]

theorem GroupsHoldExpressions.of_connective {c : Connective} (known : tag.operator? = some c.operator)
    (holds : (Operand.expression tag left right).GroupsHoldExpressions) :
    left.GroupsHoldExpressions ∧ right.GroupsHoldExpressions := by
  rw [GroupsHoldExpressions, skeleton_connective left right known] at holds
  exact ⟨fun content member => holds content (List.mem_cons_of_mem _ (List.mem_append_left _ member)),
    fun content member => holds content (List.mem_cons_of_mem _ (List.mem_append_right _ member))⟩

theorem GroupsHoldExpressions.of_group {content : Operand}
    (holds : (Operand.group content).GroupsHoldExpressions) :
    content.isExpression = true ∧ content.GroupsHoldExpressions :=
  ⟨holds content List.mem_cons_self, fun inner member => holds inner (List.mem_cons_of_mem _ member)⟩

end Equations

/-- A push yields a group exactly if groups are all there is below the negations at the root. -/
theorem endsInGroup_of_push {t r : Operand} {kept : Bool} (run : t.push kept = .ok r) :
    r.endsInGroup = t.endsInGroup := by
  induction t using inductionByOperator generalizing kept r with
  | key | value | unfit | foreign => cases run
  | group content _ =>
    obtain ⟨inner, _, rfl⟩ := push_group_eq_ok_iff.1 run
    rfl
  | unknown tag left right unknown =>
    rw [push_unknown kept left right unknown] at run
    cases run
  | negation tag left right known ih =>
    rw [push_negation kept left right known] at run
    rw [endsInGroup_negation known, ih run]
  | connective tag c left right known _ _ =>
    obtain ⟨left', right', _, _, rfl⟩ := (push_connective_eq_ok_iff known).1 run
    rw [endsInGroup_positive known c.operator_ne_not,
      endsInGroup_positive (Tag.operator?_known _) (c.signed kept).operator_ne_not]
  | comparison tag op left right known compares _ =>
    obtain ⟨_, rfl⟩ := (push_comparison_eq_ok_iff known compares).1 run
    have signed := Operator.ne_not (Operator.isLogical_signed compares kept)
    rw [endsInGroup_positive known (Operator.ne_not compares), endsInGroup_positive (Tag.operator?_known _) signed]

/-- In a plain filter only a group is at the end of no negations. -/
theorem Plain.ungrouped_cases {t : Operand} (plain : t.Plain) :
    (t.endsInGroup = true ∧ t = .group t.ungrouped) ∨ (t.endsInGroup = false ∧ t.ungrouped = t) := by
  cases plain with
  | comparison field v known compares =>
    exact Or.inr ⟨endsInGroup_positive known (Operator.ne_not compares), rfl⟩
  | connective c known => exact Or.inr ⟨endsInGroup_positive known c.operator_ne_not, rfl⟩
  | group => exact Or.inl ⟨rfl, rfl⟩

theorem WellFormed.push_true_exists {t : Operand} (wellFormed : t.WellFormed) :
    ∃ q, t.push true = .ok q ∧ q.Plain ∧ t.negation.negate = .ok q := by
  have denied : t.negation.WellFormed := .negation .absent (Tag.operator?_known .not) wellFormed
  obtain ⟨q, run, plain, _⟩ := denied.negate_exists (α := Bool)
  have pushed : t.negation.push false = .ok q := by rw [← negate_eq_push, run]
  exact ⟨q, pushed, plain, run⟩

end Operand

namespace Dialect

/-- The number of characters that are written for a chain. -/
def writtenLength (d : Dialect) (settings : Settings) (c : Chain (Atom Value)) : Nat :=
  (d.tokensText settings c.tokens).length

theorem writtenLength_append (d : Dialect) (settings : Settings) (left : Chain (Atom Value)) (c : Connective)
    (right : Chain (Atom Value)) :
    d.writtenLength settings (left.append c right) =
      d.writtenLength settings left + ((d.symbol c.operator).length + d.writtenLength settings right) := by
  rw [writtenLength, Chain.tokens_append, tokensText_append, tokensText_cons, String.length_append,
    String.length_append, tokenText, writtenLength, writtenLength]

theorem writtenLength_group (d : Dialect) (settings : Settings) (content : Chain (Atom Value)) :
    d.writtenLength settings (.last (.group content)) =
      d.groupOpen.length + (d.writtenLength settings content + d.groupClose.length) := by
  rw [writtenLength, Chain.tokens, Part.tokens, tokensText_cons, tokensText_append, tokensText_cons,
    tokensText_nil, String.append_empty, String.length_append, String.length_append, tokenText, tokenText,
    writtenLength]

end Dialect

namespace Operand

/-- What two ways of writing a filter come to: the parts of both are the same unless the filter regroups, and
fewer characters are written for the second if it does. -/
def Shortens (e : Operand) (d : Dialect) (settings : Settings) (p q : Operand) : Prop :=
  (e.regroups = false → q.chain = p.chain) ∧
    (e.regroups = true → d.writtenLength settings q.chain < d.writtenLength settings p.chain)

theorem Shortens.length_le {e p q : Operand} {d : Dialect} {settings : Settings}
    (shortens : e.Shortens d settings p q) :
    d.writtenLength settings q.chain ≤ d.writtenLength settings p.chain := by
  cases regrouped : e.regroups with
  | true => exact Nat.le_of_lt (shortens.2 regrouped)
  | false => exact Nat.le_of_eq (by rw [shortens.1 regrouped])

theorem Shortens.connective {tag tag' : Tag} {c : Connective} {left right p q p' q' : Operand} {d : Dialect}
    {settings : Settings} (known : tag.operator? = some c.operator) (known' : tag'.operator? = some c.operator)
    (first : left.Shortens d settings p q) (second : right.Shortens d settings p' q') :
    (Operand.expression tag left right).Shortens d settings (.expression tag p p') (.expression tag' q q') := by
  rw [Shortens, regroups_connective known, chain_connective known, chain_connective known',
    Dialect.writtenLength_append, Dialect.writtenLength_append]
  constructor
  · intro neither
    rw [Bool.or_eq_false_iff] at neither
    rw [first.1 neither.1, second.1 neither.2]
  · intro either
    have lengthLeft := first.length_le
    have lengthRight := second.length_le
    rcases Bool.or_eq_true_iff.1 either with inLeft | inRight
    · have shorter := first.2 inLeft
      omega
    · have shorter := second.2 inRight
      omega

/-- A group is kept around what is no group itself. -/
theorem Shortens.group {content p q : Operand} {d : Dialect} {settings : Settings}
    (single : content.deniesGroup = false) (shortens : content.Shortens d settings p q) :
    (Operand.group content).Shortens d settings (.group p) (.group q) := by
  rw [Shortens, regroups, single, Bool.false_or, chain, chain, Dialect.writtenLength_group,
    Dialect.writtenLength_group]
  constructor
  · intro kept
    rw [shortens.1 kept]
  · intro dropped
    have shorter := shortens.2 dropped
    omega

/-- Of two groups around the same content, one is left. -/
theorem Shortens.regrouped {content x : Operand} {d : Dialect} {settings : Settings}
    (denies : content.deniesGroup = true) (bracketed : 0 < d.groupOpen.length) :
    (Operand.group content).Shortens d settings (.group (.group x)) (.group x) := by
  rw [Shortens, regroups, denies, Bool.true_or, chain, chain, chain, Dialect.writtenLength_group,
    Dialect.writtenLength_group, Dialect.writtenLength_group]
  constructor
  · intro kept
    cases kept
  · intro _
    omega

/-- Negations of a group are carried out at once, by both ways alike. -/
theorem resolved_of_deniesGroup {t : Operand} (denies : t.deniesGroup = true) : t.resolved = t.push true := by
  cases t with
  | expression tag left right =>
    simp only [deniesGroup, endsInGroup, Bool.and_eq_true, beq_iff_eq] at denies
    rw [resolved, push_negation true left right denies.2.1, denies.2.1]
    exact negate_eq_push left
  | key | value | group | unfit | foreign => cases denies

/-- A well-formed filter is resolved node by node when it is written, and pushed as a whole when its double
negation is. Only the push drops groups: those around what turns into a group of its own. -/
theorem WellFormed.shortens {e : Operand} (wellFormed : e.WellFormed) (holds : e.GroupsHoldExpressions)
    {d : Dialect} (bracketed : 0 < d.groupOpen.length) (settings : Settings) :
    ∃ p q, e.resolved = .ok p ∧ e.push true = .ok q ∧ e.Shortens d settings p q := by
  induction wellFormed with
  | @comparison tag op field v known compares =>
    have sides : SidesAreNodes (.key field) (.value v) := ⟨rfl, Or.inr rfl⟩
    have same : (Operand.expression (.known op) (.key field) (.value v)).chain =
        (Operand.expression tag (.key field) (.value v)).chain := by
      rw [chain_comparison (Tag.operator?_known op) compares, chain_comparison known compares]
    refine ⟨_, _, resolved_comparison known compares _ _,
      (push_comparison_eq_ok_iff known compares).2 ⟨sides, rfl⟩, fun _ => same, ?_⟩
    rw [regroups_comparison known compares]
    exact fun dropped => by cases dropped
  | @connective tag left right c known _ _ ihLeft ihRight =>
    obtain ⟨holdsLeft, holdsRight⟩ := holds.of_connective known
    obtain ⟨p, q, runLeft, pushedLeft, first⟩ := ihLeft holdsLeft
    obtain ⟨p', q', runRight, pushedRight, second⟩ := ihRight holdsRight
    refine ⟨.expression tag p p', _, ?_,
      (push_connective_eq_ok_iff known).2 ⟨q, q', pushedLeft, pushedRight, rfl⟩,
      first.connective known (Tag.operator?_known _) second⟩
    rw [resolved_connective known, runLeft, runRight]
    rfl
  | @negation tag left right known inner _ =>
    -- Both ways carry out the negation at once.
    obtain ⟨r, run, _⟩ := inner.negate_exists (α := Bool)
    refine ⟨r, r, ?_, ?_, fun _ => rfl, ?_⟩
    · rw [resolved, known]
      exact run
    · rw [push_negation true left right known]
      rwa [negate_eq_push] at run
    · rw [regroups_negation known]
      exact fun dropped => by cases dropped
  | @group content inner ih =>
    obtain ⟨expression, holdsInner⟩ := holds.of_group
    obtain ⟨p, q, run, pushed, shortens⟩ := ih holdsInner
    obtain ⟨q', pushed', plain, _⟩ := inner.push_true_exists
    have same : q' = q := Except.ok.inj (pushed'.symm.trans pushed)
    subst same
    have ends := endsInGroup_of_push pushed
    have denies : content.deniesGroup = content.endsInGroup := by rw [deniesGroup, expression, Bool.true_and]
    refine ⟨.group p, .group q'.ungrouped, ?_, push_group_eq_ok_iff.2 ⟨q', pushed, rfl⟩, ?_⟩
    · rw [resolved, run]
      rfl
    · -- The push has turned the content into a group exactly if the content was a negated one.
      rcases plain.ungrouped_cases with ⟨grouped, shape⟩ | ⟨single, shape⟩
      · have denied : content.deniesGroup = true := by rw [denies, ← ends, grouped]
        rw [resolved_of_deniesGroup denied, pushed] at run
        cases run
        rw [shape]
        exact Shortens.regrouped denied bracketed
      · rw [shape]
        exact shortens.group (by rw [denies, ← ends, single])

end Operand

/-- The text of a doubly negated filter is the text of the filter itself, unless outside of all negations a group
holds one or more negations of a group and nothing else. If so, the text is shorter. -/
theorem doubly_negated_text_eq_iff (store : Store) (given : Option String) (settings : Settings) {e : Operand}
    (wellFormed : e.WellFormed) (holds : e.GroupsHoldExpressions) :
    ∃ text text', (store.dialect given).render settings e = .ok text ∧
      (store.dialect given).render settings e.negation.negation = .ok text' ∧
      (text' = text ↔ e.regroups = false) ∧ (e.regroups = true → text'.length < text.length) := by
  have spells := store.isInfix given
  have opening : (store.dialect given).groupOpen = "(" := by cases store <;> rfl
  have bracketed : 0 < (store.dialect given).groupOpen.length := by rw [opening]; decide
  obtain ⟨p, q, run, pushed, alike, shorter⟩ := wellFormed.shortens holds bracketed settings
  obtain ⟨p', run', plain, _, same⟩ := wellFormed.resolved_exists
  cases Except.ok.inj (run'.symm.trans run)
  obtain ⟨q', pushed', plain', denied⟩ := wellFormed.push_true_exists
  cases Except.ok.inj (pushed'.symm.trans pushed)
  refine ⟨(store.dialect given).tokensText settings p.chain.tokens,
    (store.dialect given).tokensText settings q.chain.tokens, Dialect.render_of_writes ?_,
    Dialect.render_of_writes ?_, ⟨fun equal => ?_, fun none => by rw [alike none]⟩, shorter⟩
  · rw [same settings spells]
    exact plain.writes spells
  · rw [Operand.negation, Operand.write_negation (Tag.operator?_known _) denied]
    exact plain'.writes spells
  · refine Bool.eq_false_iff.2 fun regrouped => ?_
    have less := shorter regrouped
    rw [Dialect.writtenLength, Dialect.writtenLength, equal] at less
    exact Nat.lt_irrefl _ less

/-- A double negation takes nothing from the text of `(NOT (a = 0)) AND NOT (b = 0)` but one pair of brackets, and
from that of `(NOT a = 0) AND NOT (NOT (b = 0))` nothing at all. -/
theorem doubly_negated_texts_of_groups :
    let both (left right : Operand) := Operand.expression (.known .and) left right
    let e := both (.group (Operand.group (.equalsZero "a")).negation) (Operand.group (.equalsZero "b")).negation
    let e' := both (.group (Operand.equalsZero "a").negation)
      (.negation (.group (Operand.group (.equalsZero "b")).negation))
    (e.WellFormed ∧ e.GroupsHoldExpressions ∧ ∃ text text',
        (Store.mariaDb.dialect none).render default e = .ok text ∧
        (Store.mariaDb.dialect none).render default e.negation.negation = .ok text' ∧
        text'.length < text.length) ∧
      e'.WellFormed ∧ e'.GroupsHoldExpressions ∧ ∃ text,
        (Store.mariaDb.dialect none).render default e' = .ok text ∧
        (Store.mariaDb.dialect none).render default e'.negation.negation = .ok text := by
  intro both e e'
  have zero (field : String) : (Operand.equalsZero field).WellFormed :=
    .comparison field (.scalar (.int 0)) (Tag.operator?_known .eq) rfl
  have deny {x : Operand} (inner : x.WellFormed) : x.negation.WellFormed :=
    .negation .absent (Tag.operator?_known .not) inner
  have wellFormed : e.WellFormed := .connective .and (Tag.operator?_known .and)
    (.group (deny (.group (zero "a")))) (deny (.group (zero "b")))
  have wellFormed' : e'.WellFormed := .connective .and (Tag.operator?_known .and)
    (.group (deny (zero "a"))) (deny (.group (deny (.group (zero "b")))))
  have holds : e.GroupsHoldExpressions := by
    simp [Operand.GroupsHoldExpressions, e, both, Operand.skeleton, Operand.negation, Operand.equalsZero,
      Operand.isExpression]
  have holds' : e'.GroupsHoldExpressions := by
    simp [Operand.GroupsHoldExpressions, e', both, Operand.skeleton, Operand.negation, Operand.equalsZero,
      Operand.isExpression]
  obtain ⟨text, text', run, twice, _, shorter⟩ := doubly_negated_text_eq_iff .mariaDb none default wellFormed holds
  obtain ⟨text₀, text₀', run', twice', equal, _⟩ :=
    doubly_negated_text_eq_iff .mariaDb none default wellFormed' holds'
  refine ⟨⟨wellFormed, holds, text, text', run, twice, shorter (by decide)⟩, wellFormed', holds', text₀, run', ?_⟩
  rw [equal.2 (by decide)] at twice'
  exact twice'

end FieldFilter
