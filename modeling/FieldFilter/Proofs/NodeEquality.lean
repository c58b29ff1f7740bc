import Mathlib.Data.List.Forall2
import FieldFilter.Proofs.Acceptance

namespace FieldFilter

theorem map_eq_of_forall₂ {α β : Type} {R : α → α → Prop} {f : α → β} {l m : List α}
    (related : List.Forall₂ R l m) (same : ∀ a b, R a b → f a = f b) : l.map f = m.map f := by
  have images : List.Forall₂ (· = ·) (l.map f) (m.map f) :=
    List.forall₂_map_left_iff.2 (List.forall₂_map_right_iff.2 (related.imp same))
  rwa [List.forall₂_eq_eq_eq] at images

theorem Datum.same_null {d : Datum} (equal : d.same .null = true) : d = .null := by
  cases d <;> first | rfl | simp [same] at equal

theorem Datum.null_same {d : Datum} (equal : Datum.null.same d = true) : d = .null := by
  cases d <;> first | rfl | simp [same] at equal

theorem Scalar.kind_eq_of_same {s t : Scalar} (same : s.same t = true) : s.kind = t.kind := by
  cases s <;> cases t <;> first | rfl | cases same

namespace Value

/-- Values are equal if both are scalars or both are lists, and their items are equal one by one. -/
theorem same_iff {v w : Value} :
    v.same w = true ↔ v.isList = w.isList ∧ List.Forall₂ (fun s t => s.same t = true) v.scalars w.scalars := by
  cases v with
  | scalar s =>
    cases w with
    | scalar t => simp [same, isList, scalars]
    | list m => simp [same, isList]
  | list l =>
    cases w with
    | scalar t => simp [same, isList]
    | list m => simp [same, isList, scalars, List.forall₂_iff_zip, List.all_eq_true]

theorem kinds_eq_of_same {v w : Value} (same : v.same w = true) :
    v.scalars.map Scalar.kind = w.scalars.map Scalar.kind :=
  map_eq_of_forall₂ (same_iff.1 same).2 fun _ _ => Scalar.kind_eq_of_same

end Value

theorem Unfit.isValue_eq_of_same {u v : Unfit} (same : u.same v = true) : u.isValue = v.isValue := by
  cases u <;> cases v <;> first | rfl | cases same

namespace Operand

/-- Equal operands, as a relation that follows their shape. Expressions have operators of one name. -/
inductive Alike : Operand → Operand → Prop
  | key (name : String) : Alike (.key name) (.key name)
  | value {v w : Value} : v.same w = true → Alike (.value v) (.value w)
  | expression {tag tag' : Tag} {left right left' right' : Operand} : tag.name = tag'.name →
      Alike left left' → Alike right right' → Alike (.expression tag left right) (.expression tag' left' right')
  | group {content content' : Operand} : Alike content content' → Alike (.group content) (.group content')
  | unfit {u v : Unfit} : u.same v = true → Alike (.unfit u) (.unfit v)
  | foreign {d e : Datum} : d.same e = true → Alike (.foreign d) (.foreign e)

theorem same_iff_alike {t u : Operand} : t.same u = true ↔ t.Alike u := by
  constructor
  · intro equal
    induction t generalizing u with
    | key name =>
      cases u with
      | key name' => exact beq_iff_eq.1 equal ▸ .key name
      | value | expression | group | unfit | foreign => cases equal
    | value v =>
      cases u with
      | value w => exact .value equal
      | key | expression | group | unfit | foreign => cases equal
    | expression tag left right ihLeft ihRight =>
      cases u with
      | expression tag' left' right' =>
        simp only [same, Bool.and_eq_true, beq_iff_eq] at equal
        exact .expression equal.1.1 (ihLeft equal.1.2) (ihRight equal.2)
      | key | value | group | unfit | foreign => cases equal
    | group content ih =>
      cases u with
      | group content' => exact .group (ih equal)
      | key | value | expression | unfit | foreign => cases equal
    | unfit u =>
      cases u with
      | unfit v => exact .unfit equal
      | key | value | expression | group | foreign => cases equal
    | foreign d =>
      cases u with
      | foreign e => exact .foreign equal
      | key | value | unfit | expression | group => cases equal
  · intro alike
    induction alike with
    | key name => exact beq_self_eq_true name
    | value equal => exact equal
    | expression named _ _ ihLeft ihRight => simp [same, named, ihLeft, ihRight]
    | group _ ih => exact ih
    | unfit equal => exact equal
    | foreign equal => exact equal

namespace Alike

variable {t u : Operand}

theorem absent : Operand.absent.Alike .absent :=
  .foreign (by rw [Datum.same])

theorem ungrouped (alike : t.Alike u) : t.ungrouped.Alike u.ungrouped := by
  cases alike with
  | key name => exact .key name
  | value equal => exact .value equal
  | expression named left right => exact .expression named left right
  | group content => exact content
  | unfit equal => exact .unfit equal
  | foreign equal => exact .foreign equal

theorem isNode_eq (alike : t.Alike u) : t.isNode = u.isNode := by
  cases alike <;> rfl

theorem isValue_eq (alike : t.Alike u) : t.isValue = u.isValue := by
  cases alike with
  | unfit equal => exact Unfit.isValue_eq_of_same equal
  | key | value | expression | group | foreign => rfl

/-- Nothing but a missing operand equals a missing one. -/
theorem isAbsent_eq (alike : t.Alike u) : t.isAbsent = u.isAbsent := by
  rw [Bool.eq_iff_iff, isAbsent_iff, isAbsent_iff]
  constructor
  · rintro rfl
    cases alike with
    | foreign equal => rw [Datum.null_same equal]
  · rintro rfl
    cases alike with
    | foreign equal => rw [Datum.same_null equal]

theorem sideIssues_eq {left left' right right' : Operand} (onLeft : left.Alike left') (onRight : right.Alike right') :
    sideIssues left right = sideIssues left' right' := by
  rw [sideIssues, sideIssues, nodeIssues, nodeIssues, nodeIssues, nodeIssues, onLeft.isNode_eq, onRight.isNode_eq,
    onRight.isAbsent_eq]

theorem isEmptyMembership_eq {tag tag' : Tag} (named : tag.name = tag'.name) (alike : t.Alike u) :
    isEmptyMembership tag t = isEmptyMembership tag' u := by
  rw [isEmptyMembership_congr (Tag.operator?_congr named) t]
  cases alike with
  | value equal =>
    rename_i v w
    obtain ⟨lists, items⟩ := Value.same_iff.1 equal
    cases v with
    | scalar s =>
      cases w with
      | scalar s' => rfl
      | list m => cases lists
    | list l =>
      cases w with
      | scalar s' => cases lists
      | list m =>
        have lengths : l.items.length = m.items.length := items.length_eq
        have empty : l.items.isEmpty = m.items.isEmpty := by
          rw [Bool.eq_iff_iff, List.isEmpty_iff_length_eq_zero, List.isEmpty_iff_length_eq_zero, lengths]
        rw [isEmptyMembership, isEmptyMembership, empty]
  | key | expression | group | unfit | foreign => rfl

/-- Negations are carried out alike on equal operands: the results are equal, or the errors are of one class. -/
theorem push (alike : t.Alike u) (kept : Bool) :
    (∃ r r', t.push kept = .ok r ∧ u.push kept = .ok r' ∧ r.Alike r') ∨
      ∃ e e', t.push kept = .error e ∧ u.push kept = .error e' ∧ e.category? = e'.category? := by
  induction alike generalizing kept with
  | key | value | unfit | foreign =>
    exact Or.inr ⟨_, _, rfl, rfl, by simp only [FilterError.category?_notNegatable]⟩
  | group _ ih =>
    rw [push_group, push_group]
    rcases ih kept with ⟨r, r', run, run', result⟩ | ⟨e, e', failed, failed', category⟩
    · rw [run, run']
      exact Or.inl ⟨_, _, rfl, rfl, .group result.ungrouped⟩
    · rw [failed, failed']
      exact Or.inr ⟨_, _, rfl, rfl, category⟩
  | @expression tag tag' left right left' right' named onLeft onRight ihLeft ihRight =>
    have operators := Tag.operator?_congr named
    cases known : tag.operator? with
    | none =>
      rw [push_unknown kept left right known, push_unknown kept left' right' (operators ▸ known)]
      exact Or.inr ⟨_, _, rfl, rfl, by simp only [FilterError.category?_noOpposite]⟩
    | some op =>
      have known' := operators ▸ known
      rcases op.kinds with rfl | ⟨c, rfl⟩ | compares
      · rw [push_negation kept left right known, push_negation kept left' right' known']
        exact ihLeft !kept
      · rw [push_connective kept left right known, push_connective kept left' right' known']
        rcases ihLeft kept with ⟨r, r', run, run', result⟩ | ⟨e, e', failed, failed', category⟩
        · rcases ihRight kept with ⟨q, q', ran, ran', result'⟩ | ⟨e, e', failed, failed', category⟩
          · rw [run, run', ran, ran']
            exact Or.inl ⟨_, _, rfl, rfl, .expression rfl result result'⟩
          · rw [run, run', failed, failed']
            exact Or.inr ⟨_, _, rfl, rfl, category⟩
        · rw [failed, failed']
          exact Or.inr ⟨_, _, rfl, rfl, category⟩
      · rw [push_comparison kept left right known compares, push_comparison kept left' right' known' compares,
          checkedExpression, checkedExpression, sideIssues_eq onLeft onRight]
        cases sideIssues left' right' with
        | nil => exact Or.inl ⟨_, _, rfl, rfl, .expression rfl onLeft onRight⟩
        | cons issue rest => exact Or.inr ⟨_, _, rfl, rfl, rfl⟩

end Alike

/-- What a push yields is a node, and no bare number. -/
theorem isBareNan_of_push {t r : Operand} {kept : Bool} (run : t.push kept = .ok r) : r.isBareNan = false := by
  have filter := (expression_of_push run).1
  cases r with
  | expression | group => rfl
  | key | value | unfit | foreign => cases filter

end Operand

/-- Equal operands are negated alike, whatever they hold: the results are equal, or both negations fail with errors
of one class. -/
theorem equal_operands_negated_alike {a b : Operand} (equal : a.equals b = true) :
    (∃ r r', a.negate = .ok r ∧ b.negate = .ok r' ∧ r.equals r' = true) ∨
      ∃ e e', a.negate = .error e ∧ b.negate = .error e' ∧ e.category? = e'.category? := by
  rw [Operand.equals, Bool.and_eq_true] at equal
  have alike := Operand.same_iff_alike.1 equal.2
  rw [a.negate_eq_push, b.negate_eq_push]
  rcases alike.push false with ⟨r, r', run, run', result⟩ | failed
  · refine Or.inl ⟨r, r', run, run', ?_⟩
    rw [Operand.equals, Operand.isBareNan_of_push run, Operand.same_iff_alike.2 result]
    rfl
  · exact Or.inr failed

/-- A filter with plain texts for operators equals the checked one whose zeros have the other sign, and so do the
results of negating them, each of which keeps its zeros. Without their left sides the comparisons are refused. -/
theorem negations_of_unchecked_and_checked :
    let compared (tag : Tag) (left : Operand) (x : Binary64) :=
      Operand.expression tag left (.value (.scalar (.float x)))
    let filter (tag : Operator → Tag) (left : Operand) (x : Binary64) := Operand.expression (tag .not)
      (.group (.expression (tag .or) (compared (tag .eq) left x)
        (.expression (tag .not) (compared (tag .gt) left x) .absent))) .absent
    let result (x : Binary64) := Operand.group (.expression (.known .or) (compared (.known .eq) (.key "f") x)
      (compared (.known .lte) (.key "f") x))
    let unchecked (left : Operand) := filter (fun op => .plain op.name) left ⟨0, 0⟩
    let checked (left : Operand) := filter .known left ⟨0x8000000000000000, 0⟩
    ((unchecked (.key "f")).equals (checked (.key "f")) = true ∧
      (unchecked (.key "f")).negate = .ok (result ⟨0, 0⟩) ∧
      (checked (.key "f")).negate = .ok (result ⟨0x8000000000000000, 0⟩) ∧
      (result ⟨0, 0⟩).equals (result ⟨0x8000000000000000, 0⟩) = true) ∧
    (unchecked .absent).equals (checked .absent) = true ∧
      ∃ e e', (unchecked .absent).negate = .error e ∧ (checked .absent).negate = .error e' ∧
        e.category? = e'.category? := by
  intro compared filter result unchecked checked
  have alike {left : Operand} (onLeft : left.Alike left) : (unchecked left).Alike (checked left) :=
    .expression rfl (.group (.expression rfl (.expression rfl onLeft (.value (by decide)))
      (.expression rfl (.expression rfl onLeft (.value (by decide))) .absent))) .absent
  have equals {left : Operand} (onLeft : left.Alike left) : (unchecked left).equals (checked left) = true :=
    Operand.same_iff_alike.2 (alike onLeft)
  have equal := equals (.key "f")
  have equal' := equals .absent
  have run : (unchecked (.key "f")).negate = .ok (result ⟨0, 0⟩) := by
    rw [Operand.negate_eq_push]
    rfl
  have run' : (checked (.key "f")).negate = .ok (result ⟨0x8000000000000000, 0⟩) := by
    rw [Operand.negate_eq_push]
    rfl
  have refused : ∃ e, (unchecked .absent).negate = .error e := by
    rw [Operand.negate_eq_push]
    exact ⟨_, rfl⟩
  refine ⟨⟨equal, run, run', ?_⟩, equal', ?_⟩
  · rcases equal_operands_negated_alike equal with ⟨r, r', ran, ran', same⟩ | ⟨e, _, failed, _⟩
    · cases Except.ok.inj (run.symm.trans ran)
      cases Except.ok.inj (run'.symm.trans ran')
      exact same
    · rw [run] at failed
      cases failed
  · obtain ⟨e, failed⟩ := refused
    rcases equal_operands_negated_alike equal' with ⟨r, _, ran, _⟩ | errors
    · rw [failed] at ran
      cases ran
    · exact errors

end FieldFilter
