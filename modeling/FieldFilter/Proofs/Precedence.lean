import FieldFilter.Proofs.Flattening
import FieldFilter.Proofs.Truth

namespace FieldFilter

variable {α : Type}

mutual

def Part.holds (truth : α → Bool) : Part α → Bool
  | .atom a => truth a
  | .group content => content.holdsAfter truth true

/-- The truth of a chain that is read from the left, where `pending` is the conjunction so far. A
disjunction ends it, so that conjunction binds tighter. -/
def Chain.holdsAfter (truth : α → Bool) (pending : Bool) : Chain α → Bool
  | .last p => pending && p.holds truth
  | .link p .and rest => rest.holdsAfter truth (pending && p.holds truth)
  | .link p .or rest => pending && p.holds truth || rest.holdsAfter truth true

end

/-- The truth of a chain that is read with conjunction before disjunction. -/
def Chain.holds (truth : α → Bool) (c : Chain α) : Bool :=
  c.holdsAfter truth true

/-- The truth of written tokens: brackets are matched first, then come conjunctions, then disjunctions. -/
def Token.evaluate (truth : α → Bool) (tokens : List (Token α)) : Option Bool :=
  (Chain.ofTokens? tokens).map (·.holds truth)

namespace Chain

theorem evaluate_tokens (truth : α → Bool) (c : Chain α) :
    Token.evaluate truth c.tokens = some (c.holds truth) := by
  rw [Token.evaluate, ofTokens?_tokens, Option.map_some]

def isRun : Chain α → Bool
  | .last _ => true
  | .link _ .and rest => rest.isRun
  | .link _ .or _ => false

theorem isRun_append_and (left : Chain α) {right : Chain α} (runLeft : left.isRun = true)
    (runRight : right.isRun = true) :
    (left.append .and right).isRun = true := by
  match left, runLeft with
  | .last p, _ => exact runRight
  | .link p .and rest, runRest => exact isRun_append_and rest runRest runRight

theorem holdsAfter_append_or (truth : α → Bool) (pending : Bool) (left right : Chain α) :
    (left.append .or right).holdsAfter truth pending =
      (left.holdsAfter truth pending || right.holdsAfter truth true) := by
  match left with
  | .last p => rw [append, holdsAfter, holdsAfter]
  | .link p .and rest => rw [append, holdsAfter, holdsAfter, holdsAfter_append_or]
  | .link p .or rest => rw [append, holdsAfter, holdsAfter, holdsAfter_append_or, Bool.or_assoc]

theorem holdsAfter_append_and (truth : α → Bool) (pending : Bool) (left right : Chain α)
    (run : left.isRun = true) :
    (left.append .and right).holdsAfter truth pending =
      right.holdsAfter truth (left.holdsAfter truth pending) := by
  match left, run with
  | .last p, _ => rw [append, holdsAfter, holdsAfter]
  | .link p .and rest, runRest =>
    rw [append, holdsAfter, holdsAfter, holdsAfter_append_and truth _ rest right runRest]

/-- A run is a single conjunction, which goes on with what is pending. -/
theorem holdsAfter_of_isRun (truth : α → Bool) (pending : Bool) {c : Chain α} (run : c.isRun = true) :
    c.holdsAfter truth pending = (pending && c.holds truth) := by
  match c, run with
  | .last p, _ => rw [holds, holdsAfter, holdsAfter, Bool.true_and]
  | .link p .and rest, runRest =>
    have reads (b : Bool) := holdsAfter_of_isRun (c := rest) truth b runRest
    rw [holds, holdsAfter, holdsAfter, reads, reads (true && p.holds truth), Bool.true_and, Bool.and_assoc]

end Chain

namespace Atom

def holds (I : Interpretation Bool) : Atom Value → Bool
  | .constant truth => truth
  | .comparison op field v => I.holds op field v

end Atom

/-- Nothing is in an empty list. -/
def Interpretation.SettlesEmpty (I : Interpretation Bool) : Prop :=
  ∀ (field : String) (l : ScalarList), l.items = [] → I.holds .isIn field (.list l) = false

/-- The comparisons that hold when the fact they are about does not. -/
def Operator.isDenial : Operator → Bool
  | .ne | .gt | .gte | .notIn => true
  | _ => false

/-- The interpretation by facts about fields: a comparison states the fact or denies it. -/
def Interpretation.ofFacts (facts : String → Value → Bool) : Interpretation Bool where
  holds op field v := facts field v ^^ op.isDenial
  complementary {op other} field v compares paired := by
    have flipped : other.isDenial = !op.isDenial := by
      cases op <;> cases other <;> simp_all [Operator.opposite?, Operator.isDenial, Operator.isLogical]
    rw [flipped]
    exact Bool.xor_not _ _

/-- The interpretation in which the fact about every value of the named field holds. -/
def Interpretation.ofField (chosen : String) : Interpretation Bool :=
  .ofFacts fun field v => field == chosen && !v.scalars.isEmpty

theorem Interpretation.settlesEmpty_ofField (chosen : String) : (ofField chosen).SettlesEmpty := by
  intro field l none
  simp [ofField, ofFacts, Operator.isDenial, Value.scalars, none]

theorem Atom.holds_ofComparison {I : Interpretation Bool} (settled : I.SettlesEmpty) (op : Operator)
    (field : String) (v : Value) : (Atom.ofComparison op field v).holds I = I.holds op field v := by
  unfold Atom.ofComparison
  split
  · rename_i empty
    obtain ⟨member, l, rfl, none⟩ := Operand.isEmptyMembership_iff.1 empty
    have nothing := settled field l none
    rcases member with rfl | rfl
    · exact nothing.symm
    · have paired : I.holds .notIn field (.list l) = !I.holds .isIn field (.list l) :=
        I.complementary field (.list l) rfl rfl
      rw [nothing] at paired
      exact paired.symm
  · rfl

namespace Operand

/-- A node of the connective that no group is around. -/
def joins (c : Connective) : Operand → Bool
  | .expression tag _ _ => tag.operator? == some c.operator
  | _ => false

/-- Wherever `inner` stands directly under `outer`, it is in a group. -/
def Grouped (inner outer : Connective) : Operand → Prop
  | .group content => content.Grouped inner outer
  | .expression tag left right =>
    (tag.operator? = some outer.operator → left.joins inner = false ∧ right.joins inner = false) ∧
      left.Grouped inner outer ∧ right.Grouped inner outer
  | _ => True

theorem joins_connective {tag : Tag} {c k : Connective} (known : tag.operator? = some c.operator)
    (left right : Operand) : (Operand.expression tag left right).joins k = decide (c = k) := by
  rw [joins, known]
  cases c <;> cases k <;> rfl

theorem joins_comparison {tag : Tag} {op : Operator} (known : tag.operator? = some op)
    (compares : op.isLogical = false) (left right : Operand) (c : Connective) :
    (Operand.expression tag left right).joins c = false := by
  rw [joins, known]
  cases op <;> cases c <;> first | rfl | simp [Operator.isLogical] at compares

/-- Where no conjunction has a disjunction directly below it, the chain of a filter reads as the filter,
and as a single conjunction unless the filter is a disjunction. -/
theorem Plain.chain_reads {t : Operand} (plain : t.Plain) (grouped : t.Grouped .or .and)
    {I : Interpretation Bool} (settled : I.SettlesEmpty) :
    (t.joins .or = false → t.chain.isRun = true) ∧ t.chain.holds (Atom.holds I) = t.truth I := by
  induction plain with
  | comparison field v known compares =>
    rw [chain_comparison known compares, truth_comparison I known compares]
    refine ⟨fun _ => rfl, ?_⟩
    rw [Chain.holds, Chain.holdsAfter, Part.holds, Atom.holds_ofComparison settled, Bool.true_and]
  | @connective tag left right c known _ _ readLeft readRight =>
    obtain ⟨direct, groupedLeft, groupedRight⟩ := grouped
    obtain ⟨runLeft, readsLeft⟩ := readLeft groupedLeft
    obtain ⟨runRight, readsRight⟩ := readRight groupedRight
    rw [chain_connective known, truth_connective I known, joins_connective known, ← readsLeft, ← readsRight]
    cases c with
    | and =>
      have single := direct known
      refine ⟨fun _ => Chain.isRun_append_and _ (runLeft single.1) (runRight single.2), ?_⟩
      rw [Chain.holds, Chain.holdsAfter_append_and _ _ _ _ (runLeft single.1),
        Chain.holdsAfter_of_isRun _ _ (runRight single.2)]
      rfl
    | or =>
      refine ⟨fun apart => by simp at apart, ?_⟩
      rw [Chain.holds, Chain.holdsAfter_append_or]
      rfl
  | @group content _ reads =>
    refine ⟨fun _ => rfl, ?_⟩
    rw [chain, Chain.holds, Chain.holdsAfter, Part.holds, Bool.true_and, truth_group]
    exact (reads grouped).2

end Operand

end FieldFilter
