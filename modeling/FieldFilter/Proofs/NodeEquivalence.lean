import FieldFilter.Proofs.NodeEquality
import FieldFilter.Proofs.NumericOrder

namespace FieldFilter

namespace Scalar

/-- Scalars of one type that are one text, one truth value or one number. The number of a double is where it lies on
the line of the rational numbers with both ends, so that both zeros are one number. -/
inductive Agrees : Scalar → Scalar → Prop
  | text (s : String) : Agrees (.text s) (.text s)
  | bool (b : Bool) : Agrees (.bool b) (.bool b)
  | int (n : Int) : Agrees (.int n) (.int n)
  | float {x y : Binary64} {a : WithBot (WithTop ℚ)} : number? (.float x) = some a → number? (.float y) = some a →
      Agrees (.float x) (.float y)

namespace Agrees

variable {s t u : Scalar}

theorem symm (agrees : s.Agrees t) : t.Agrees s := by
  cases agrees with
  | text s => exact .text s
  | bool b => exact .bool b
  | int n => exact .int n
  | float found found' => exact .float found' found

theorem trans (first : s.Agrees t) (second : t.Agrees u) : s.Agrees u := by
  cases first with
  | text | bool | int => exact second
  | float found found' =>
    cases second with
    | float again again' =>
      cases Option.some.inj (found'.symm.trans again)
      exact .float found again'

theorem typeName_eq (agrees : s.Agrees t) : s.typeName = t.typeName := by
  cases agrees <;> rfl

theorem each_trans {l m n : List Scalar} (first : List.Forall₂ Agrees l m) (second : List.Forall₂ Agrees m n) :
    List.Forall₂ Agrees l n := by
  induction first generalizing n with
  | nil => exact second
  | cons head _ ih =>
    cases second with
    | cons head' rest => exact .cons (head.trans head') (ih rest)

end Agrees

theorem same_iff_agrees {s t : Scalar} (number : s.isNan = false) (number' : t.isNan = false) :
    s.same t = true ↔ s.Agrees t := by
  constructor
  · intro equal
    cases s with
    | text s =>
      cases t with
      | text s' => exact beq_iff_eq.1 equal ▸ .text s
      | bool | int | float => cases equal
    | bool b =>
      cases t with
      | bool b' => exact beq_iff_eq.1 equal ▸ .bool b
      | text | int | float => cases equal
    | int n =>
      cases t with
      | int n' => exact beq_iff_eq.1 equal ▸ .int n
      | text | bool | float => cases equal
    | float x =>
      cases t with
      | float y =>
        obtain ⟨a, found⟩ := exists_number (s := .float x) (by simp [kind]) number
        obtain ⟨b, found'⟩ := exists_number (s := .float y) (by simp [kind]) number'
        have one : a = b := (sameScalar_iff_of_number found found').1 equal
        exact .float found (one ▸ found')
      | text | bool | int => cases equal
  · intro agrees
    cases agrees with
    | text | bool | int => exact same_refl _
    | float found found' => exact (sameScalar_iff_of_number found found').2 rfl

end Scalar

/-- Values are equal if both are scalars or both are lists, and their items agree one by one. -/
theorem Value.same_iff_agrees {v w : Value} (numbers : v.AllNumbers) (numbers' : w.AllNumbers) :
    v.same w = true ↔ v.isList = w.isList ∧ List.Forall₂ Scalar.Agrees v.scalars w.scalars := by
  have each {s t : Scalar} (member : (s, t) ∈ v.scalars.zip w.scalars) : s.same t = true ↔ s.Agrees t :=
    Scalar.same_iff_agrees (numbers s (List.of_mem_zip member).1) (numbers' t (List.of_mem_zip member).2)
  rw [same_iff, List.forall₂_iff_zip, List.forall₂_iff_zip]
  refine and_congr_right fun _ => and_congr_right fun _ => ⟨fun items s t member => ?_, fun items s t member => ?_⟩
  · exact (each member).1 (items member)
  · exact (each member).2 (items member)

namespace Operand

/-- A tree of missing operands and of nodes of which fields and values could have been checked, and in which every
double is a number. -/
def IsTree : Operand → Prop
  | .key _ => True
  | .value v => v.AllNumbers
  | .unfit _ => False
  | .expression _ left right => left.IsTree ∧ right.IsTree
  | .group content => content.IsTree
  | .foreign d => d = .null

/-- Trees of one shape with the same names of operators and fields, and with values of one form whose scalars
agree. -/
inductive Corresponds : Operand → Operand → Prop
  | absent : Corresponds .absent .absent
  | key (name : String) : Corresponds (.key name) (.key name)
  | value {v w : Value} : v.isList = w.isList → List.Forall₂ Scalar.Agrees v.scalars w.scalars →
      Corresponds (.value v) (.value w)
  | expression {tag tag' : Tag} {left right left' right' : Operand} : tag.name = tag'.name →
      Corresponds left left' → Corresponds right right' →
      Corresponds (.expression tag left right) (.expression tag' left' right')
  | group {content content' : Operand} : Corresponds content content' →
      Corresponds (.group content) (.group content')

/-- The scalars of all values in a tree, from left to right. -/
def scalars : Operand → List Scalar
  | .value v => v.scalars
  | .expression _ left right => left.scalars ++ right.scalars
  | .group content => content.scalars
  | .key _ | .unfit _ | .foreign _ => []

namespace Corresponds

variable {t u v : Operand}

theorem refl (tree : t.IsTree) : t.Corresponds t := by
  induction t with
  | key name => exact .key name
  | value v => exact .value rfl ((Value.same_iff_agrees tree tree).1 v.same_refl).2
  | expression tag left right ihLeft ihRight => exact .expression rfl (ihLeft tree.1) (ihRight tree.2)
  | group content ih => exact .group (ih tree)
  | unfit => cases tree
  | foreign d =>
    cases tree
    exact .absent

theorem symm (corresponds : t.Corresponds u) : u.Corresponds t := by
  induction corresponds with
  | absent => exact .absent
  | key name => exact .key name
  | value form items => exact .value form.symm (items.imp fun _ _ => Scalar.Agrees.symm).flip
  | expression named _ _ left right => exact .expression named.symm left right
  | group _ content => exact .group content

theorem trans (first : t.Corresponds u) (second : u.Corresponds v) : t.Corresponds v := by
  induction first generalizing v with
  | absent | key => exact second
  | value form items =>
    cases second with
    | value form' items' => exact .value (form.trans form') (Scalar.Agrees.each_trans items items')
  | expression named _ _ ihLeft ihRight =>
    cases second with
    | expression named' left right => exact .expression (named.trans named') (ihLeft left) (ihRight right)
  | group _ ih =>
    cases second with
    | group content => exact .group (ih content)

/-- At every place in two trees that correspond, scalars agree. -/
theorem scalars_agree (corresponds : t.Corresponds u) : List.Forall₂ Scalar.Agrees t.scalars u.scalars := by
  induction corresponds with
  | absent | key => exact .nil
  | value _ items => exact items
  | expression _ _ _ left right => exact List.rel_append left right
  | group _ content => exact content

theorem alike (corresponds : t.Corresponds u) (tree : t.IsTree) (tree' : u.IsTree) : t.Alike u := by
  induction corresponds with
  | absent => exact .absent
  | key name => exact .key name
  | value form items => exact .value ((Value.same_iff_agrees tree tree').2 ⟨form, items⟩)
  | expression named _ _ left right => exact .expression named (left tree.1 tree'.1) (right tree.2 tree'.2)
  | group _ content => exact .group (content tree tree')

end Corresponds

theorem Alike.corresponds {t u : Operand} (alike : t.Alike u) (tree : t.IsTree) (tree' : u.IsTree) :
    t.Corresponds u := by
  induction alike with
  | key name => exact .key name
  | value equal =>
    obtain ⟨form, items⟩ := (Value.same_iff_agrees tree tree').1 equal
    exact .value form items
  | expression named _ _ left right => exact .expression named (left tree.1 tree'.1) (right tree.2 tree'.2)
  | group _ content => exact .group (content tree tree')
  | unfit => cases tree
  | foreign _ =>
    cases tree
    cases tree'
    exact .absent

theorem equals_iff_corresponds {t u : Operand} (tree : t.IsTree) (tree' : u.IsTree) :
    t.equals u = true ↔ t.Corresponds u := by
  have bare : t.isBareNan = false := by
    cases t with
    | foreign => cases tree; rfl
    | key | value | unfit | expression | group => rfl
  rw [equals, bare, Bool.not_false, Bool.true_and, same_iff_alike]
  exact ⟨fun alike => alike.corresponds tree tree', fun corresponds => corresponds.alike tree tree'⟩

end Operand

/-- Equality is an equivalence relation on trees. Two trees are equal exactly if they correspond node for node, so
that their scalars have the same types at all places. -/
theorem equality_compares_node_for_node :
    (Equivalence fun t u : { t : Operand // t.IsTree } => t.1.equals u.1 = true) ∧
      ∀ t u : Operand, t.IsTree → u.IsTree → (t.equals u = true ↔ t.Corresponds u) ∧
        (t.equals u = true → t.scalars.map Scalar.typeName = u.scalars.map Scalar.typeName) := by
  have iff {t u : Operand} (tree : t.IsTree) (tree' : u.IsTree) : t.equals u = true ↔ t.Corresponds u :=
    Operand.equals_iff_corresponds tree tree'
  refine ⟨⟨fun t => ?_, fun {t u} equal => ?_, fun {t u v} first second => ?_⟩,
    fun t u tree tree' => ⟨?_, fun equal => ?_⟩⟩
  · exact (iff t.2 t.2).2 (.refl t.2)
  · exact (iff u.2 t.2).2 ((iff t.2 u.2).1 equal).symm
  · exact (iff t.2 v.2).2 (((iff t.2 u.2).1 first).trans ((iff u.2 v.2).1 second))
  · exact iff tree tree'
  · have agree := ((iff tree tree').1 equal).scalars_agree
    exact map_eq_of_forall₂ agree fun _ _ => Scalar.Agrees.typeName_eq

/-- The tree of `NOT ((f = 0.0))` with plain texts for operators equals the checked one of `NOT ((f = -0.0))`. The
number one as a whole number, as a double and as a truth value makes three unequal trees. -/
theorem trees_of_zeros_equal_and_of_ones_apart :
    let tree (tag : Operator → Tag) (s : Scalar) := Operand.expression (tag .not)
      (.group (.group (.expression (tag .eq) (.key "f") (.value (.scalar s))))) .absent
    let unchecked := tree (fun op => .plain op.name) (.float ⟨0, 0⟩)
    let checked := tree .known (.float ⟨0x8000000000000000, 0⟩)
    let one := tree .known (.int 1)
    let double := tree .known (.float ⟨0x3ff0000000000000, 0⟩)
    let truth := tree .known (.bool true)
    (unchecked.IsTree ∧ checked.IsTree ∧ unchecked.equals checked = true ∧ unchecked.Corresponds checked) ∧
      one.equals double = false ∧ one.equals truth = false ∧ double.equals truth = false := by
  intro tree unchecked checked one double truth
  have isTree (tag : Operator → Tag) {s : Scalar} (number : s.isNan = false) : (tree tag s).IsTree :=
    ⟨⟨trivial, fun x member => List.mem_singleton.1 member ▸ number⟩, rfl⟩
  have apart {s t : Scalar} (number : s.isNan = false) (number' : t.isNan = false) (types : s.typeName ≠ t.typeName) :
      (tree .known s).equals (tree .known t) = false := by
    have compared := equality_compares_node_for_node.2 _ _ (isTree .known number) (isTree .known number')
    refine Bool.eq_false_iff.2 fun equal => types ?_
    exact List.head_eq_of_cons_eq (compared.2 equal)
  have alike : unchecked.Alike checked :=
    .expression rfl (.group (.group (.expression rfl (.key "f") (.value (by decide))))) .absent
  have equal : unchecked.equals checked = true := Operand.same_iff_alike.2 alike
  have isTreeUnchecked : unchecked.IsTree := isTree (fun op => .plain op.name) (by decide)
  have isTreeChecked : checked.IsTree := isTree .known (by decide)
  have compared := equality_compares_node_for_node.2 unchecked checked isTreeUnchecked isTreeChecked
  refine ⟨⟨isTreeUnchecked, isTreeChecked, equal, compared.1.1 equal⟩, ?_, ?_, ?_⟩
  · exact apart (by decide) (by decide) (by decide)
  · exact apart (by decide) (by decide) (by decide)
  · exact apart (by decide) (by decide) (by decide)

end FieldFilter
