import FieldFilter.Datum

namespace FieldFilter

/-- The kinds that occur in a list, in the order of their names. -/
def kindsOf (items : List Scalar) : List ScalarKind :=
  ScalarKind.all.filter fun kind => items.any fun s => s.kind == kind

/-- A list of scalars of one kind. -/
structure ScalarList where
  items : List Scalar
  uniform : (kindsOf items).length ≤ 1
deriving DecidableEq

/-- What a field is compared with: one scalar, or a list of scalars of one kind. -/
inductive Value
  | scalar (s : Scalar)
  | list (l : ScalarList)
deriving DecidableEq

/-- Why a datum is not a value. -/
inductive ValueFault
  | unsupportedType (typeName : String)
  | unsupportedItem
  | mixedKinds (kinds : List ScalarKind)
deriving DecidableEq

def ValueFault.message : ValueFault → String
  | .unsupportedType typeName => "Unsupported value type: " ++ typeName
  | .unsupportedItem => "Value sequence items must be numbers, strings or booleans"
  | .mixedKinds kinds =>
    "Value sequence must be homogeneous, got " ++ String.intercalate ", " (kinds.map ScalarKind.name)

theorem mem_kindsOf {kind : ScalarKind} {items : List Scalar} :
    kind ∈ kindsOf items ↔ ∃ s ∈ items, s.kind = kind := by
  cases kind <;> simp [kindsOf, ScalarKind.all]

/-- Any two items of a list are of one kind. -/
theorem ScalarList.kind_eq (l : ScalarList) {s t : Scalar} (left : s ∈ l.items) (right : t ∈ l.items) :
    s.kind = t.kind := by
  have first : s.kind ∈ kindsOf l.items := mem_kindsOf.2 ⟨s, left, rfl⟩
  have second : t.kind ∈ kindsOf l.items := mem_kindsOf.2 ⟨t, right, rfl⟩
  have single := l.uniform
  match kinds : kindsOf l.items, single with
  | [], _ => simp [kinds] at first
  | [kind], _ => simp_all

namespace Value

/-- Equality that keeps kinds of scalars, and scalars and lists, apart. -/
def same : Value → Value → Bool
  | .scalar s, .scalar t => s.same t
  | .list l, .list m => l.items.length == m.items.length &&
      (l.items.zip m.items).all fun pair => pair.1.same pair.2
  | _, _ => false

theorem same_refl (v : Value) : v.same v = true := by
  have each (items : List Scalar) : (items.zip items).all (fun pair => pair.1.same pair.2) = true := by
    induction items with
    | nil => rfl
    | cons s rest ih => rw [List.zip_cons_cons, List.all_cons, s.same_refl, ih, Bool.true_and]
  cases v with
  | scalar s => exact s.same_refl
  | list l => rw [same, each, beq_self_eq_true, Bool.true_and]

def isList : Value → Bool
  | .scalar _ => false
  | .list _ => true

/-- The scalars of a value. -/
def scalars : Value → List Scalar
  | .scalar s => [s]
  | .list l => l.items

/-- A value as a datum; a stored list is a tuple. -/
def datum : Value → Datum
  | .scalar s => .scalar s
  | .list l => .tuple (l.items.map .scalar)

/-- A value as a literal in messages. -/
def literal (v : Value) : String :=
  v.datum.literal

/-- A list of scalars of one kind. -/
def ofScalars (items : List Scalar) : Except ValueFault Value :=
  if uniform : (kindsOf items).length ≤ 1 then .ok (.list ⟨items, uniform⟩)
  else .error (.mixedKinds (kindsOf items))

/-- The value that a datum stands for. Sequences keep their order and the members of sets are
sorted. -/
def ofDatum : Datum → Except ValueFault Value
  | .scalar s => .ok (.scalar s)
  | .list items | .tuple items =>
    match items.mapM Datum.scalar? with
    | some scalars => ofScalars scalars
    | none => .error .unsupportedItem
  | .set items | .frozenSet items =>
    match items.mapM Datum.scalar? with
    | some scalars => ofScalars (scalars.mergeSort Scalar.le)
    | none => .error .unsupportedItem
  | d => .error (.unsupportedType d.typeName)

/-- The value that is stored as a datum, if there is one. -/
def ofStored? : Datum → Option Value
  | .scalar s => some (.scalar s)
  | .tuple items => (ofDatum (.tuple items)).toOption
  | _ => none

end Value

end FieldFilter
