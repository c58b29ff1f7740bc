import Mathlib.Data.Set.List
import FieldFilter.Value
import FieldFilter.Proofs.NumericOrder

namespace FieldFilter

namespace Datum

variable {items : List Scalar}

theorem same_scalar (s t : Scalar) : same (.scalar s) (.scalar t) = sameScalar s t := by
  rw [same]

theorem mapM_scalar? (items : List Scalar) : (items.map Datum.scalar).mapM Datum.scalar? = some items := by
  rw [List.mapM_map]
  exact List.mapM_pure.trans (congrArg some items.map_id)

/-- A rearrangement of scalars is a list of scalars. -/
theorem exists_scalars_of_perm {held : List Datum} (perm : held.Perm (items.map .scalar)) :
    ∃ scalars : List Scalar, held = scalars.map .scalar ∧ scalars.Perm items := by
  have each (d : Datum) (member : d ∈ held) : d ∈ Set.range Datum.scalar := by
    obtain ⟨s, _, rfl⟩ := List.mem_map.1 (perm.mem_iff.1 member)
    exact ⟨s, rfl⟩
  obtain ⟨scalars, rfl⟩ : held ∈ Set.range (List.map Datum.scalar) := by
    rw [Set.range_list_map]
    exact each
  exact ⟨scalars, rfl, (List.map_perm_map_iff fun _ _ => Datum.scalar.inj).1 perm⟩

theorem forM_checkHashable (items : List Scalar) : (items.map Datum.scalar).forM checkHashable = .ok () := by
  induction items with
  | nil => rfl
  | cons s rest ih => exact ih

/-- Unequal items are put into a set one after the other. -/
theorem foldl_putMember {before items : List Datum}
    (apart : (before ++ items).Pairwise fun d e => same d e = false) : items.foldl putMember before = before ++ items := by
  induction items generalizing before with
  | nil => exact (List.append_nil before).symm
  | cons d rest ih =>
    have fresh : before.any (same · d) = false := by
      rw [List.any_eq_false]
      intro e member equal
      have unequal := (List.pairwise_append.1 apart).2.2 e member d List.mem_cons_self
      exact absurd (unequal.symm.trans equal) (by decide)
    have added : putMember before d = before ++ [d] := by rw [putMember, fresh, if_neg Bool.false_ne_true]
    rw [List.append_cons] at apart
    rw [List.foldl_cons, added, ih apart, List.append_assoc, List.singleton_append]

theorem arranged_perm (held : List Datum) : (arranged held).Perm held := by
  unfold arranged
  split
  · exact List.mergeSort_perm _ _
  · exact .refl _

theorem members_of_unequal (apart : items.Pairwise fun s t => same (.scalar s) (.scalar t) = false) :
    ∃ held, members (items.map .scalar) = .ok held ∧ held.Perm (items.map .scalar) := by
  have put : (items.map Datum.scalar).foldl putMember [] = items.map .scalar :=
    foldl_putMember (List.pairwise_map.2 apart)
  refine ⟨arranged (items.map .scalar), ?_, arranged_perm _⟩
  rw [members, forM_checkHashable, put]
  rfl

end Datum

/-- Members of a set of one kind: no two are equal, and no double among them is not a number. -/
structure SetMembers (items : List Scalar) : Prop where
  apart : items.Pairwise fun s t => Datum.same (.scalar s) (.scalar t) = false
  numbers : ∀ s ∈ items, s.isNan = false
  kinds : ∀ s ∈ items, ∀ t ∈ items, s.kind = t.kind

namespace SetMembers

variable {items : List Scalar}

theorem perm (members : SetMembers items) {other : List Scalar} (perm : other.Perm items) : SetMembers other where
  apart := by
    refine (perm.pairwise_iff fun unequal => ?_).2 members.apart
    rw [Datum.same_scalar] at unequal ⊢
    exact (Scalar.sameScalar_comm _ _).trans unequal
  numbers s member := members.numbers s (perm.mem_iff.1 member)
  kinds s left t right := members.kinds s (perm.mem_iff.1 left) t (perm.mem_iff.1 right)

theorem uniform (members : SetMembers items) : (kindsOf items).length ≤ 1 := by
  have once : (kindsOf items).Nodup := List.Nodup.filter _ (by decide : ScalarKind.all.Nodup)
  cases items with
  | nil => decide
  | cons s rest =>
    have one : kindsOf (s :: rest) ⊆ [s.kind] := fun kind member => by
      obtain ⟨t, inside, rfl⟩ := mem_kindsOf.1 member
      exact List.mem_singleton.2 (members.kinds t inside s List.mem_cons_self)
    exact (List.subperm_of_subset once one).length_le

theorem ascending (members : SetMembers items) : (items.mergeSort Scalar.le).Pairwise Scalar.Below := by
  have sorted := members.perm (List.mergeSort_perm items Scalar.le)
  refine ((Scalar.pairwise_mergeSort members.kinds members.numbers).and sorted.apart).imp_of_mem ?_
  intro s t left right ⟨le, unequal⟩
  rw [Datum.same_scalar] at unequal
  exact Scalar.below_of_le (sorted.kinds s left t right) (sorted.numbers s left) (sorted.numbers t right) le unequal

end SetMembers

/-- An ascending list is determined by what is in it. -/
theorem Scalar.Below.eq_of_perm {items other : List Scalar} (ascends : items.Pairwise Below)
    (ascends' : other.Pairwise Below) (perm : items.Perm other) : items = other :=
  perm.eq_of_pairwise (fun _ _ _ _ below above => absurd above below.asymm) ascends ascends'

theorem ScalarList.exists_kind (l : ScalarList) : ∃ kind, ∀ s ∈ l.items, s.kind = kind := by
  cases items : l.items with
  | nil => exact ⟨.boolean, fun s member => absurd member List.not_mem_nil⟩
  | cons s rest =>
    exact ⟨s.kind, fun t member => l.kind_eq (items.symm ▸ member) (items.symm ▸ List.mem_cons_self)⟩

namespace Value

theorem exists_kind (v : Value) : ∃ kind, ∀ s ∈ v.scalars, s.kind = kind := by
  cases v with
  | scalar s => exact ⟨s.kind, fun t member => congrArg _ (List.mem_singleton.1 member)⟩
  | list l => exact l.exists_kind

theorem ofScalars_items (l : ScalarList) : ofScalars l.items = .ok (.list l) := by
  rw [ofScalars, dif_pos l.uniform]

theorem ofDatum_datum (v : Value) : ofDatum v.datum = .ok v := by
  cases v with
  | scalar s => rfl
  | list l =>
    simp only [datum, ofDatum, Datum.mapM_scalar?]
    exact ofScalars_items l

end Value

/-- Values are stored in one form. What is accepted is stored as a scalar or as a tuple of scalars of one kind, and
this is accepted again as the same value. A set of scalars of one kind is stored in ascending order, whatever the
order in which its members are held or were put in. -/
theorem stored_value_is_canonical :
    (∀ (d : Datum) (v : Value), Value.ofDatum d = .ok v →
      ((∃ s, v.datum = .scalar s) ∨ ∃ (items : List Scalar) (kind : ScalarKind),
          v.datum = .tuple (items.map .scalar) ∧ ∀ s ∈ items, s.kind = kind) ∧
        Value.ofDatum v.datum = .ok v) ∧
      ∀ items, SetMembers items → ∃ l : ScalarList, l.items.Pairwise Scalar.Below ∧ l.items.Perm items ∧
        (∀ held : List Datum, held.Perm (items.map .scalar) →
          Value.ofDatum (.set held) = .ok (.list l) ∧ Value.ofDatum (.frozenSet held) = .ok (.list l)) ∧
        ∀ inserted : List Scalar, inserted.Perm items →
          ∃ held, Datum.members (inserted.map .scalar) = .ok held ∧ held.Perm (items.map .scalar) := by
  refine ⟨fun d v _ => ⟨?_, v.ofDatum_datum⟩, fun items members => ?_⟩
  · cases v with
    | scalar s => exact Or.inl ⟨s, rfl⟩
    | list l =>
      obtain ⟨kind, uniform⟩ := l.exists_kind
      exact Or.inr ⟨l.items, kind, rfl, uniform⟩
  · have sorted := List.mergeSort_perm items Scalar.le
    let l : ScalarList := ⟨items.mergeSort Scalar.le, (members.perm sorted).uniform⟩
    refine ⟨l, members.ascending, sorted, fun held perm => ?_, fun inserted perm => ?_⟩
    · obtain ⟨scalars, rfl, rearranged⟩ := Datum.exists_scalars_of_perm perm
      have same : scalars.mergeSort Scalar.le = l.items :=
        Scalar.Below.eq_of_perm (members.perm rearranged).ascending members.ascending
          ((List.mergeSort_perm _ _).trans (rearranged.trans sorted.symm))
      simp only [Value.ofDatum, Datum.mapM_scalar?, same, Value.ofScalars_items, and_self]
    · obtain ⟨held, put, arranged⟩ := Datum.members_of_unequal (members.perm perm).apart
      exact ⟨held, put, arranged.trans (perm.map _)⟩

/-- A whole number that is not a double is put in its place among doubles. -/
theorem whole_number_between_doubles :
    let items : List Scalar := [.float ⟨0x7FF0000000000000, 0⟩, .int (2 ^ 53 + 1), .float ⟨0x4340000000000001, 0⟩,
      .int (-3), .float ⟨0x4340000000000000, 0⟩, .float ⟨0xFFF0000000000000, 0⟩]
    let ordered : List Scalar := [.float ⟨0xFFF0000000000000, 0⟩, .int (-3), .float ⟨0x4340000000000000, 0⟩,
      .int (2 ^ 53 + 1), .float ⟨0x4340000000000001, 0⟩, .float ⟨0x7FF0000000000000, 0⟩]
    SetMembers items ∧
      ∃ l : ScalarList, l.items = ordered ∧ Value.ofDatum (.set (items.map .scalar)) = .ok (.list l) := by
  intro items ordered
  have members : SetMembers items := by
    refine ⟨?_, by decide, by decide⟩
    simp only [Datum.same_scalar]
    decide +kernel
  have ascends : ordered.Pairwise Scalar.Below := by
    have ranked : ordered.Pairwise fun s t => s.kind = t.kind ∧ s.isNan = false ∧ t.isNan = false ∧
        s.le t = true ∧ Datum.sameScalar s t = false := by decide +kernel
    exact ranked.imp fun ⟨kind, number, number', le, unequal⟩ => Scalar.below_of_le kind number number' le unequal
  have rearranged : ordered.Perm items := by decide +kernel
  obtain ⟨l, ascending, perm, stored, _⟩ := stored_value_is_canonical.2 items members
  exact ⟨members, l, Scalar.Below.eq_of_perm ascending ascends (perm.trans rearranged.symm), (stored _ (.refl _)).1⟩

end FieldFilter
