import Mathlib.Data.List.Sort
import Mathlib.Data.String.Basic
import Mathlib.Order.WithBot
import FieldFilter.Datum
import FieldFilter.Proofs.ValueText

namespace FieldFilter

namespace Binary64

variable {x y : Binary64}

/-- The number that a finite double stands for. -/
def value (x : Binary64) : ℚ :=
  (if x.isNegative then -1 else 1) * x.significand * 2 ^ ((x.power : ℤ) - 1074)

theorem value_eq_scaled (x : Binary64) : x.value = x.scaled / 2 ^ 1074 := by
  have split : (2 : ℚ) ^ ((x.power : ℤ) - 1074) = 2 ^ x.power / 2 ^ 1074 := by
    rw [zpow_sub₀ two_ne_zero, zpow_natCast]
    rfl
  rw [value, split, scaled]
  generalize (2 : ℚ) ^ 1074 = unit
  cases x.isNegative <;> simp only [Bool.false_eq_true, if_false, if_true, Nat.pow_eq] <;> push_cast <;> ring

theorem magnitude_lt (raised : x.power < y.power) :
    x.significand * 2 ^ x.power < y.significand * 2 ^ y.power := by
  have room : x.significand < 2 ^ 52 * 2 := x.significand_lt
  have least : 2 ^ 52 ≤ y.significand := significand_ge (by omega)
  calc x.significand * 2 ^ x.power
      < 2 ^ 52 * 2 * 2 ^ x.power := Nat.mul_lt_mul_of_pos_right room (Nat.two_pow_pos _)
    _ = 2 ^ 52 * 2 ^ (x.power + 1) := by rw [Nat.pow_succ]; ring
    _ ≤ y.significand * 2 ^ y.power := Nat.mul_le_mul least (Nat.pow_le_pow_right (by decide) raised)

/-- A magnitude determines the double up to its sign. -/
theorem magnitude_injective (same : x.significand * 2 ^ x.power = y.significand * 2 ^ y.power) :
    x.exponentField = y.exponentField ∧ x.fraction = y.fraction := by
  have powers : x.power = y.power := by
    rcases Nat.lt_trichotomy x.power y.power with below | equal | above
    · exact absurd same (magnitude_lt below).ne
    · exact equal
    · exact absurd same (magnitude_lt above).ne'
  rw [powers] at same
  exact fields_eq powers (Nat.eq_of_mul_eq_mul_right (Nat.two_pow_pos _) same)

theorem natAbs_scaled (x : Binary64) : x.scaled.natAbs = x.significand * 2 ^ x.power := by
  rw [scaled]
  split <;> simp only [Int.natAbs_neg, Int.natAbs_natCast, Nat.pow_eq]

theorem scaled_eq_zero_iff : x.scaled = 0 ↔ x.isZero = true := by
  rw [← Int.natAbs_eq_zero, natAbs_scaled, Nat.mul_eq_zero, or_iff_left (Nat.two_pow_pos _).ne']
  constructor
  · intro none
    cases zero : x.isZero with
    | true => rfl
    | false => exact absurd none (significand_pos zero).ne'
  · intro zero
    rw [isZero_iff] at zero
    rw [significand, if_pos zero.1, zero.2]

theorem isNegative_iff_scaled_neg (nonzero : x.isZero = false) : x.isNegative = true ↔ x.scaled < 0 := by
  have positive : 0 < x.significand * Nat.pow 2 x.power := Nat.mul_pos (significand_pos nonzero) (Nat.two_pow_pos _)
  rw [scaled]
  cases x.isNegative <;> simp only [Bool.false_eq_true, if_false, if_true, false_iff, true_iff] <;> omega

theorem scaled_injective (same : x.scaled = y.scaled) : x.bits = y.bits ∨ x.isZero = true ∧ y.isZero = true := by
  cases zero : x.isZero with
  | true =>
    have zero' : y.isZero = true := by
      rw [← scaled_eq_zero_iff, ← same, scaled_eq_zero_iff, zero]
    exact Or.inr ⟨rfl, zero'⟩
  | false =>
    have nonzero' : y.isZero = false := by
      rw [← Bool.not_eq_true, ← scaled_eq_zero_iff, ← same, scaled_eq_zero_iff, Bool.not_eq_true, zero]
    have signs : x.isNegative = y.isNegative := by
      rw [Bool.eq_iff_iff, isNegative_iff_scaled_neg zero, isNegative_iff_scaled_neg nonzero', same]
    have magnitudes := congrArg Int.natAbs same
    rw [natAbs_scaled, natAbs_scaled] at magnitudes
    obtain ⟨exponents, fractions⟩ := magnitude_injective magnitudes
    exact Or.inl (bits_eq signs exponents fractions)

theorem ofBinary64_congr (same : x.bits = y.bits) : LinePoint.ofBinary64 x = LinePoint.ofBinary64 y := by
  cases x
  cases y
  cases same
  rfl

theorem isInfinite_of_isZero (zero : x.isZero = true) : x.isInfinite = false := by
  rw [isZero_iff] at zero
  simp [isInfinite, zero.1]

theorem point_of_finite (finite : x.isInfinite = false) : LinePoint.ofBinary64 x = ⟨0, x.scaled⟩ := by
  rw [LinePoint.ofBinary64, finite, if_neg Bool.false_ne_true]

theorem point_of_infinite (infinite : x.isInfinite = true) :
    LinePoint.ofBinary64 x = ⟨if x.isNegative then -1 else 1, 0⟩ := by
  rw [LinePoint.ofBinary64, if_pos infinite]

theorem isInfinite_iff_rank_ne_zero : x.isInfinite = true ↔ (LinePoint.ofBinary64 x).rank ≠ 0 := by
  cases infinite : x.isInfinite with
  | true =>
    rw [point_of_infinite infinite]
    cases x.isNegative <;> decide
  | false =>
    rw [point_of_finite infinite]
    exact iff_of_false Bool.false_ne_true (not_not_intro rfl)

/-- What lies at one place has one pattern of bits, or is zero. -/
theorem point_injective (same : LinePoint.ofBinary64 x = LinePoint.ofBinary64 y) :
    x.bits = y.bits ∨ x.isZero = true ∧ y.isZero = true := by
  have infinities : x.isInfinite = y.isInfinite := by
    rw [Bool.eq_iff_iff, isInfinite_iff_rank_ne_zero, isInfinite_iff_rank_ne_zero, same]
  cases infinite : x.isInfinite with
  | true =>
    have infinite' := infinities.symm.trans infinite
    rw [point_of_infinite infinite, point_of_infinite infinite', LinePoint.mk.injEq] at same
    have signs : x.isNegative = y.isNegative := by
      cases negative : x.isNegative <;> cases negative' : y.isNegative <;> simp [negative, negative'] at same ⊢
    rw [isInfinite_iff] at infinite infinite'
    exact Or.inl (bits_eq signs (infinite.1.trans infinite'.1.symm) (infinite.2.trans infinite'.2.symm))
  | false =>
    rw [point_of_finite infinite, point_of_finite (infinities.symm.trans infinite), LinePoint.mk.injEq] at same
    exact scaled_injective same.2

/-- Doubles are equal exactly if they lie at one place. -/
theorem sameNumber_iff (number : x.isNan = false) :
    x.sameNumber y = true ↔ LinePoint.ofBinary64 x = LinePoint.ofBinary64 y := by
  have equal : x.sameNumber y = true ↔ x.bits = y.bits ∨ x.isZero = true ∧ y.isZero = true := by
    simp [sameNumber, number]
  rw [equal]
  constructor
  · rintro (same | ⟨zero, zero'⟩)
    · exact ofBinary64_congr same
    · rw [point_of_finite (isInfinite_of_isZero zero), point_of_finite (isInfinite_of_isZero zero'),
        scaled_eq_zero_iff.2 zero, scaled_eq_zero_iff.2 zero']
  · exact point_injective

end Binary64

namespace LinePoint

/-- The number at a point of the extended line. -/
def number (p : LinePoint) : WithBot (WithTop ℚ) :=
  if p.rank < 0 then ⊥ else if 0 < p.rank then ⊤ else ((p.scaled / 2 ^ 1074 : ℚ) : WithTop ℚ)

/-- The point is a finite one or one of the ends. -/
def Proper (p : LinePoint) : Prop :=
  p.rank = 0 ∨ (p.rank = -1 ∨ p.rank = 1) ∧ p.scaled = 0

theorem proper_ofInt (n : Int) : (ofInt n).Proper :=
  Or.inl rfl

theorem proper_ofBinary64 (x : Binary64) : (ofBinary64 x).Proper := by
  cases infinite : x.isInfinite with
  | true =>
    rw [Binary64.point_of_infinite infinite]
    refine Or.inr ⟨?_, rfl⟩
    cases x.isNegative
    · exact Or.inr rfl
    · exact Or.inl rfl
  | false =>
    rw [Binary64.point_of_finite infinite]
    exact Or.inl rfl

theorem le_iff_number_le {p q : LinePoint} (proper : p.Proper) (proper' : q.Proper) :
    p.le q = true ↔ p.number ≤ q.number := by
  have positive : (0 : ℚ) < 2 ^ 1074 := by positivity
  obtain ⟨rank, scaled⟩ := p
  obtain ⟨rank', scaled'⟩ := q
  rw [le_iff]
  rcases proper with finite | ⟨low | high, end_⟩ <;> rcases proper' with finite' | ⟨low' | high', end_'⟩ <;>
    simp_all [number, div_le_div_iff_of_pos_right]

theorem number_injective {p q : LinePoint} (proper : p.Proper) (proper' : q.Proper) (same : p.number = q.number) :
    p = q :=
  le_antisymm ((le_iff_number_le proper proper').2 same.le) ((le_iff_number_le proper' proper).2 same.ge)

theorem number_ofInt (n : Int) : (ofInt n).number = ((n : ℚ) : WithTop ℚ) := by
  have cancelled (k : Nat) : ((n * Nat.pow 2 k : Int) : ℚ) / 2 ^ k = n := by
    rw [Nat.pow_eq, Int.cast_mul, Int.cast_natCast, Nat.cast_pow, Nat.cast_ofNat]
    exact mul_div_cancel_right₀ _ (pow_ne_zero _ two_ne_zero)
  rw [number, ofInt, if_neg (lt_irrefl 0), if_neg (lt_irrefl 0)]
  generalize 1074 = k
  rw [cancelled]

theorem ofInt_injective {m n : Int} (same : ofInt m = ofInt n) : m = n := by
  have numbers := congrArg number same
  rw [number_ofInt, number_ofInt, WithBot.coe_inj, WithTop.coe_inj] at numbers
  exact_mod_cast numbers

end LinePoint

theorem samePoint_comm (p q : Option LinePoint) : samePoint p q = samePoint q p := by
  cases p <;> cases q <;> simp [samePoint, BEq.comm]

namespace Scalar

/-- The number that a scalar stands for, on the line of the rational numbers with both ends. Truth values count as
zero and one. -/
def number? : Scalar → Option (WithBot (WithTop ℚ))
  | .text _ => none
  | .bool b => some (if b then 1 else 0)
  | .int n => some ((n : ℚ) : WithTop ℚ)
  | .float x =>
    if x.isNan then none
    else if x.isInfinite then some (if x.isNegative then ⊥ else ⊤)
    else some ((x.value : ℚ) : WithTop ℚ)

theorem number?_eq_point (s : Scalar) : s.number? = s.point?.map LinePoint.number := by
  cases s with
  | text s => rfl
  | bool b => cases b <;> rw [point?, Option.map_some, LinePoint.number_ofInt] <;> simp [number?]
  | int n => rw [point?, Option.map_some, LinePoint.number_ofInt, number?]
  | float x =>
    rw [number?, point?]
    cases x.isNan
    · cases infinite : x.isInfinite
      · simp [Binary64.point_of_finite infinite, LinePoint.number, Binary64.value_eq_scaled]
      · cases negative : x.isNegative <;> simp [Binary64.point_of_infinite infinite, negative, LinePoint.number]
    · rfl

theorem proper_point {s : Scalar} {p : LinePoint} (found : s.point? = some p) : p.Proper := by
  cases s with
  | text s => cases found
  | bool b | int n =>
    cases found
    exact LinePoint.proper_ofInt _
  | float x =>
    rw [point?] at found
    split at found
    · cases found
    · cases found
      exact LinePoint.proper_ofBinary64 x

variable {s t : Scalar} {a b : WithBot (WithTop ℚ)}

theorem exists_point_of_number (found : s.number? = some a) : ∃ p, s.point? = some p ∧ p.Proper ∧ p.number = a := by
  rw [number?_eq_point] at found
  obtain ⟨p, point, number⟩ := Option.map_eq_some_iff.1 found
  exact ⟨p, point, proper_point point, number⟩

theorem le_iff_of_number (left : s.number? = some a) (right : t.number? = some b) : s.le t = true ↔ a ≤ b := by
  obtain ⟨p, point, proper, rfl⟩ := exists_point_of_number left
  obtain ⟨q, point', proper', rfl⟩ := exists_point_of_number right
  have compared : s.le t = p.le q := by
    cases s with
    | text s => cases point
    | bool | int | float => rw [le, point, point']; simp
  rw [compared, LinePoint.le_iff_number_le proper proper']

/-- Scalars that are on the line are equal exactly if they lie at one place. -/
theorem sameScalar_iff_of_point {p q : LinePoint} (left : s.point? = some p) (right : t.point? = some q) :
    Datum.sameScalar s t = true ↔ p = q := by
  have places : samePoint s.point? t.point? = true ↔ p = q := by
    rw [left, right, samePoint, beq_iff_eq]
  cases s with
  | text s => cases left
  | bool b => cases t <;> exact places
  | int m =>
    cases t with
    | int n =>
      cases left
      cases right
      rw [Datum.sameScalar, beq_iff_eq]
      exact ⟨congrArg _, LinePoint.ofInt_injective⟩
    | text | bool | float => exact places
  | float x =>
    cases t with
    | float y =>
      rw [point?] at left right
      split at left <;> cases left
      split at right <;> cases right
      exact Binary64.sameNumber_iff (by simpa using ‹¬x.isNan = true›)
    | text | bool | int => exact places

theorem sameScalar_iff_of_number (left : s.number? = some a) (right : t.number? = some b) :
    Datum.sameScalar s t = true ↔ a = b := by
  obtain ⟨p, point, proper, rfl⟩ := exists_point_of_number left
  obtain ⟨q, point', proper', rfl⟩ := exists_point_of_number right
  rw [sameScalar_iff_of_point point point']
  exact ⟨congrArg _, LinePoint.number_injective proper proper'⟩

theorem exists_number (kind : s.kind ≠ .string) (number : s.isNan = false) : ∃ a, s.number? = some a := by
  cases s with
  | text s => exact absurd rfl kind
  | bool b => exact ⟨_, rfl⟩
  | int n => exact ⟨_, rfl⟩
  | float x =>
    have isNumber : x.isNan = false := number
    cases infinite : x.isInfinite <;> simp [number?, isNumber, infinite]

/-- The order of a stored set: texts ascend by code point, and numbers by what they stand for. -/
inductive Below : Scalar → Scalar → Prop
  | text {s t : String} : s < t → Below (.text s) (.text t)
  | number {s t : Scalar} {a b : WithBot (WithTop ℚ)} : s.number? = some a → t.number? = some b → a < b → Below s t

theorem Below.asymm (below : Below s t) : ¬Below t s := by
  intro above
  cases below with
  | text less =>
    cases above with
    | text more => exact lt_asymm less more
    | number none => cases none
  | number left right less =>
    cases above with
    | text => cases left
    | number right' left' more =>
      rw [left, Option.some_inj] at left'
      rw [right, Option.some_inj] at right'
      subst left' right'
      exact lt_asymm less more

/-- Of two unequal scalars of one kind the first in the order is below. -/
theorem below_of_le (kind : s.kind = t.kind) (number : s.isNan = false) (number' : t.isNan = false)
    (le : s.le t = true) (apart : Datum.sameScalar s t = false) : Below s t := by
  by_cases string : s.kind = .string
  · cases s <;> cases string
    cases t <;> cases kind
    exact .text (lt_of_le_of_ne (of_decide_eq_true le) (by simpa [Datum.sameScalar] using apart))
  · obtain ⟨a, left⟩ := exists_number string number
    obtain ⟨b, right⟩ := exists_number (kind ▸ string) number'
    refine .number left right (lt_of_le_of_ne ((le_iff_of_number left right).1 le) fun same => ?_)
    rw [(sameScalar_iff_of_number left right).2 same] at apart
    cases apart

theorem sameScalar_comm (s t : Scalar) : Datum.sameScalar s t = Datum.sameScalar t s := by
  cases s <;> cases t <;>
    first
    | exact BEq.comm
    | exact Binary64.sameNumber_comm _ _
    | exact samePoint_comm (point? _) (point? _)
    | simp [Datum.sameScalar, samePoint, point?]

/-- Sorting puts a list in order if its scalars have keys that are ordered alike. -/
theorem pairwise_mergeSort_of_key {β : Type} [LinearOrder β] (key : Scalar → β) {items : List Scalar}
    (agrees : ∀ s ∈ items, ∀ t ∈ items, s.le t = decide (key s ≤ key t)) :
    (items.mergeSort Scalar.le).Pairwise fun s t => s.le t = true := by
  have sorted : ((items.mergeSort Scalar.le).map key).Pairwise (· ≤ ·) := by
    rw [List.map_mergeSort (s := fun a b => decide (a ≤ b)) agrees]
    exact List.pairwise_mergeSort' _ _
  refine (List.pairwise_map.1 sorted).imp_of_mem fun left right le => ?_
  rw [agrees _ (List.mem_mergeSort.1 left) _ (List.mem_mergeSort.1 right)]
  exact decide_eq_true le

theorem pairwise_mergeSort {items : List Scalar} (kinds : ∀ s ∈ items, ∀ t ∈ items, s.kind = t.kind)
    (numbers : ∀ s ∈ items, s.isNan = false) :
    (items.mergeSort Scalar.le).Pairwise fun s t => s.le t = true := by
  by_cases strings : ∀ s ∈ items, s.kind = .string
  · refine pairwise_mergeSort_of_key bareText fun s left t right => ?_
    have string := strings s left
    have string' := strings t right
    cases s <;> cases string
    cases t <;> cases string'
    rfl
  · have notString (s : Scalar) (member : s ∈ items) : s.kind ≠ .string := fun string =>
      strings fun t member' => (kinds t member' s member).trans string
    refine pairwise_mergeSort_of_key (fun s => s.number?.getD ⊥) fun s left t right => ?_
    obtain ⟨a, found⟩ := exists_number (notString s left) (numbers s left)
    obtain ⟨b, found'⟩ := exists_number (notString t right) (numbers t right)
    rw [Bool.eq_iff_iff, le_iff_of_number found found', found, found', decide_eq_true_eq]
    rfl

end Scalar

end FieldFilter
