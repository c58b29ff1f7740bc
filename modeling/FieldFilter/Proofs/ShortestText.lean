import FieldFilter.Proofs.Rounding

namespace FieldFilter

theorem tenPower_le_of_natural : ∀ k < 1100, 10 ^ (k * 30103 / 100000) ≤ 2 ^ (k + 1) := by
  decide +kernel

theorem twoPower_le_of_natural : ∀ k < 1100, 2 ^ k ≤ 10 ^ ((k * 30103 + 99999) / 100000) := by
  decide +kernel

/-- Within the exponents of doubles, the power of ten that is read off a power of two is not above twice
that power. -/
theorem tenPower_le_twoPower {b : Int} (lower : -1100 < b) (upper : b < 1100) :
    (10 : ℚ) ^ (b * 30103 / 100000) ≤ 2 ^ (b + 1) := by
  rcases Int.le_total 0 b with positive | negative
  · obtain ⟨k, rfl⟩ := Int.eq_ofNat_of_zero_le positive
    have powers := tenPower_le_of_natural k (by omega)
    have exponent : (k : Int) * 30103 / 100000 = (k * 30103 / 100000 : Nat) := by omega
    have next : (k : Int) + 1 = (k + 1 : Nat) := by omega
    rw [exponent, next, zpow_natCast, zpow_natCast]
    exact_mod_cast powers
  · obtain ⟨k, opposite⟩ := Int.eq_ofNat_of_zero_le (Int.neg_nonneg_of_nonpos negative)
    obtain rfl : b = -k := by omega
    have powers := twoPower_le_of_natural k (by omega)
    have exponent : -(k : Int) * 30103 / 100000 = -((k * 30103 + 99999) / 100000 : Nat) := by omega
    have smaller : (2 : ℚ) ^ (-(k : Int)) ≤ 2 ^ (-(k : Int) + 1) :=
      zpow_le_zpow_right₀ (by norm_num) (by omega)
    rw [exponent]
    refine le_trans ?_ smaller
    rw [zpow_neg, zpow_neg, zpow_natCast, zpow_natCast]
    exact inv_anti₀ (by positivity) (by exact_mod_cast powers)

namespace Binary64

variable {x y : Binary64}

theorem fraction_lt (x : Binary64) : x.fraction < 2 ^ 52 :=
  Nat.mod_lt _ (by decide)

theorem exponentField_lt (x : Binary64) : x.exponentField < 2048 :=
  Nat.mod_lt _ (by decide)

theorem significand_lt (x : Binary64) : x.significand < 2 ^ 53 := by
  have bound := x.fraction_lt
  unfold significand
  split <;> omega

/-- Above the least exponent the leading bit is set. -/
theorem significand_ge {x : Binary64} (raised : 0 < x.power) : 2 ^ 52 ≤ x.significand := by
  unfold power at raised
  unfold significand
  split <;> omega

theorem significand_pos (nonzero : x.isZero = false) : 0 < x.significand := by
  unfold isZero at nonzero
  unfold significand
  split
  · simp_all
    omega
  · omega

/-- A quarter of the distance to the next greater double. -/
def quarter (x : Binary64) : ℚ :=
  2 ^ ((x.power : Int) - 1076)

theorem quarter_pos (x : Binary64) : 0 < x.quarter := by
  unfold quarter
  positivity

/-- How many quarters below a double the halfway point to the next smaller one lies. -/
def gapBelow (x : Binary64) : Nat :=
  if x.fraction = 0 ∧ 1 < x.exponentField then 1 else 2

theorem twoPower_div (a b : Nat) :
    (Nat.pow 2 (a - b) : ℚ) / (Nat.pow 2 (b - a) : ℚ) = 2 ^ ((a : Int) - b) := by
  have two : (2 : ℚ) ≠ 0 := by norm_num
  rw [Nat.pow_eq, Nat.pow_eq]
  push_cast
  rw [← zpow_natCast, ← zpow_natCast, ← zpow_sub₀ two]
  congr 1
  omega

theorem denominator_pos (x : Binary64) : 0 < x.interval.denominator :=
  Nat.pow_pos (by decide)

theorem center_eq (x : Binary64) : x.interval.center = 4 * x.significand * x.quarter := by
  rw [RoundingInterval.center, quarter, ← Nat.cast_ofNat (n := 1076), ← twoPower_div, interval]
  push_cast
  ring

theorem high_eq (x : Binary64) :
    (x.interval.high : ℚ) / x.interval.denominator = (4 * x.significand + 2) * x.quarter := by
  rw [quarter, ← Nat.cast_ofNat (n := 1076), ← twoPower_div, interval]
  push_cast
  ring

theorem low_eq (nonzero : x.isZero = false) :
    (x.interval.low : ℚ) / x.interval.denominator = (4 * x.significand - x.gapBelow) * x.quarter := by
  have positive := significand_pos nonzero
  have small : x.gapBelow ≤ 4 * x.significand := by
    unfold gapBelow
    split <;> omega
  have difference : ((4 * x.significand - x.gapBelow : Nat) : ℚ) = 4 * x.significand - x.gapBelow := by
    rw [Nat.cast_sub small]
    push_cast
    ring
  rw [quarter, ← Nat.cast_ofNat (n := 1076), ← twoPower_div, ← difference, mul_div_assoc', ← Nat.cast_mul]
  rfl

theorem closed_iff (x : Binary64) : x.interval.closed = true ↔ x.significand % 2 = 0 := by
  simp [interval]

theorem twoPower_le_center (nonzero : x.isZero = false) :
    (2 : ℚ) ^ ((Nat.log2 x.interval.value : Int) - Nat.log2 x.interval.denominator) ≤ x.interval.center := by
  have two : (2 : ℚ) ≠ 0 := by norm_num
  have whole : x.interval.value ≠ 0 :=
    Nat.mul_ne_zero (Nat.mul_ne_zero (by decide) (significand_pos nonzero).ne') (Nat.pow_pos (by decide)).ne'
  have power : x.interval.denominator = 2 ^ Nat.log2 x.interval.denominator := by
    show 2 ^ (1076 - x.power) = 2 ^ Nat.log2 (2 ^ (1076 - x.power))
    rw [Nat.log2_two_pow]
  have least : 2 ^ Nat.log2 x.interval.value ≤ x.interval.value := Nat.log2_self_le whole
  have positive : (0 : ℚ) < x.interval.denominator := by exact_mod_cast x.denominator_pos
  have denominator : (x.interval.denominator : ℚ) = 2 ^ Nat.log2 x.interval.denominator := by exact_mod_cast power
  rw [RoundingInterval.center, zpow_sub₀ two, zpow_natCast, zpow_natCast, ← denominator]
  exact div_le_div_of_nonneg_right (by exact_mod_cast least) positive.le

theorem log2_bounds (x : Binary64) :
    Nat.log2 x.interval.value < 1099 ∧ Nat.log2 x.interval.denominator ≤ 1076 := by
  have small := x.significand_lt
  have exponent := x.exponentField_lt
  constructor
  · have bound : x.interval.value < 2 ^ (55 + (x.power - 1076)) := by
      calc x.interval.value = 4 * x.significand * 2 ^ (x.power - 1076) := rfl
        _ < 2 ^ 55 * 2 ^ (x.power - 1076) := Nat.mul_lt_mul_of_pos_right (by omega) (Nat.pow_pos (by decide))
        _ = 2 ^ (55 + (x.power - 1076)) := (Nat.pow_add 2 55 _).symm
    have digits : Nat.log2 x.interval.value < 55 + (x.power - 1076) := by
      by_cases zero : x.interval.value = 0
      · rw [zero, Nat.log2_zero]
        omega
      · exact (Nat.log2_lt zero).2 bound
    unfold power at digits
    omega
  · show Nat.log2 (2 ^ (1076 - x.power)) ≤ 1076
    rw [Nat.log2_two_pow]
    omega

/-- The power of ten one below the magnitude is not above the number. -/
theorem tenPower_le_center (nonzero : x.isZero = false) :
    (10 : ℚ) ^ (x.interval.magnitude - 1) ≤ x.interval.center := by
  have bounds := x.log2_bounds
  unfold RoundingInterval.magnitude
  simp only
  split
  · rw [Int.add_sub_cancel]
    refine le_trans (tenPower_le_twoPower (by omega) (by omega)) ?_
    rw [Int.sub_add_cancel]
    exact twoPower_le_center nonzero
  · rename_i above
    rw [Int.add_sub_cancel]
    rw [RoundingInterval.below_iff x.denominator_pos, not_lt] at above
    exact above

/-- Seventeen digits always suffice: on their grid, the number above the double or the number below it
reads back. -/
theorem contains_of_seventeen (nonzero : x.isZero = false) {e : Int} (grid : e = x.interval.magnitude - 17) :
    x.interval.contains (x.interval.floor e) e = true ∨ x.interval.contains (x.interval.floor e + 1) e = true := by
  have ten : (10 : ℚ) ≠ 0 := by norm_num
  have quarter := x.quarter_pos
  obtain ⟨below, above⟩ := RoundingInterval.floor_le x.denominator_pos e
  have step : (10 : ℚ) ^ e * 10 ^ 16 ≤ 4 * x.significand * x.quarter := by
    have power := tenPower_le_center nonzero
    have exponent : x.interval.magnitude - 1 = e + (16 : Nat) := by omega
    rw [exponent, zpow_add₀ ten, zpow_natCast, center_eq] at power
    exact power
  simp only [RoundingInterval.contains_iff x.denominator_pos, RoundingInterval.Holds, low_eq nonzero, high_eq]
  rw [center_eq] at below above
  push_cast at above ⊢
  generalize (x.interval.floor e : ℚ) = n at *
  generalize (10 : ℚ) ^ e = s at *
  have small : (x.significand : ℚ) < 2 ^ 53 := by exact_mod_cast x.significand_lt
  -- At a power of two the step is less than half the gap above, so the upper neighbour will do. Elsewhere it
  -- may be almost the whole gap, but then one of the neighbours is within half of it.
  by_cases edge : x.fraction = 0 ∧ 1 < x.exponentField
  · have gap : x.gapBelow = 1 := if_pos edge
    have least : (x.significand : ℚ) = 2 ^ 52 := by
      unfold Binary64.significand
      rw [if_neg (by omega), edge.1]
      norm_num
    rw [least] at step below above
    rw [gap, least]
    right
    left
    constructor <;> push_cast <;> linarith
  · have gap : x.gapBelow = 2 := if_neg edge
    rw [gap]
    have narrow : s < 4 * x.quarter := by nlinarith
    by_cases near : 4 * x.significand * x.quarter - n * s < 2 * x.quarter
    · left
      left
      constructor <;> push_cast <;> linarith
    · right
      left
      constructor <;> push_cast <;> linarith

theorem shortest_contains (nonzero : x.isZero = false) :
    ∃ n e, x.shortest = Decimal.ofScaled n e ∧ x.interval.contains n e = true := by
  let grid (k : Nat) := x.interval.magnitude - (k + 1 : Nat)
  let choose (k : Nat) := (x.interval.nearest? (grid k)).map (Decimal.ofScaled · (grid k))
  have unfolded : x.shortest = ((List.range 17).findSome? choose).getD
      (Decimal.ofScaled (x.interval.floor (x.interval.magnitude - 17)) (x.interval.magnitude - 17)) := rfl
  rw [unfolded]
  cases found : (List.range 17).findSome? choose with
  | some d =>
    obtain ⟨k, _, chosen⟩ := List.exists_of_findSome?_eq_some found
    obtain ⟨n, nearest, rfl⟩ := Option.map_eq_some_iff.1 chosen
    exact ⟨n, grid k, rfl, RoundingInterval.contains_of_nearest? nearest⟩
  | none =>
    have last := List.findSome?_eq_none_iff.1 found 16 (by decide)
    have some := RoundingInterval.nearest?_isSome (contains_of_seventeen nonzero (e := grid 16) rfl)
    rw [Option.map_eq_none_iff.1 last] at some
    exact absurd some (by decide)

theorem allDigits_shortest (nonzero : x.isZero = false) : AllDigits x.shortest.digits := by
  obtain ⟨n, e, chosen, _⟩ := shortest_contains nonzero
  rw [chosen]
  exact Decimal.allDigits_ofScaled n e

/-- The shortest decimal reads back as the double. -/
theorem holds_shortest (nonzero : x.isZero = false) : x.interval.Holds x.shortest.value := by
  obtain ⟨n, e, chosen, inside⟩ := shortest_contains nonzero
  rw [chosen, Decimal.value_ofScaled]
  exact (RoundingInterval.contains_iff x.denominator_pos n e).1 inside

/-- How far a number that reads back as a double may lie above it: the end itself takes an even
significand. -/
theorem le_high_of_holds (nonzero : x.isZero = false) {q : ℚ} (inside : x.interval.Holds q) :
    q < (4 * x.significand + 2) * x.quarter ∨
      x.significand % 2 = 0 ∧ q ≤ (4 * x.significand + 2) * x.quarter := by
  have quarter := x.quarter_pos
  have gap : (0 : ℚ) ≤ x.gapBelow := Nat.cast_nonneg _
  rw [RoundingInterval.Holds, low_eq nonzero, high_eq, closed_iff] at inside
  rcases inside with ⟨_, below⟩ | ⟨even, atLow | atHigh⟩
  · exact Or.inl below
  · refine Or.inl ?_
    rw [atLow]
    exact mul_lt_mul_of_pos_right (by linarith) quarter
  · exact Or.inr ⟨even, atHigh.le⟩

theorem low_le_of_holds (nonzero : x.isZero = false) {q : ℚ} (inside : x.interval.Holds q) :
    (4 * x.significand - x.gapBelow) * x.quarter < q ∨
      x.significand % 2 = 0 ∧ (4 * x.significand - x.gapBelow) * x.quarter ≤ q := by
  have quarter := x.quarter_pos
  have gap : (0 : ℚ) ≤ x.gapBelow := Nat.cast_nonneg _
  rw [RoundingInterval.Holds, low_eq nonzero, high_eq, closed_iff] at inside
  rcases inside with ⟨above, _⟩ | ⟨even, atLow | atHigh⟩
  · exact Or.inl above
  · exact Or.inr ⟨even, atLow.ge⟩
  · refine Or.inl ?_
    rw [atHigh]
    exact mul_lt_mul_of_pos_right (by linarith) quarter

theorem gapBelow_le (x : Binary64) : (x.gapBelow : ℚ) ≤ 2 := by
  unfold gapBelow
  split <;> norm_num

/-- Above the least exponent, what lies half a gap below a double is not smaller than twice what lies
above the doubles of smaller exponents. -/
theorem low_ge_of_raised (raised : 0 < x.power) : (2 ^ 54 - 1 : ℚ) ≤ 4 * x.significand - x.gapBelow := by
  have least := significand_ge raised
  by_cases edge : x.fraction = 0 ∧ 1 < x.exponentField
  · have gap : x.gapBelow = 1 := if_pos edge
    have bound : (2 ^ 52 : ℚ) ≤ x.significand := by exact_mod_cast least
    rw [gap]
    push_cast
    linarith
  · have inner : 2 ^ 52 + 1 ≤ x.significand := by
      unfold power at raised
      unfold significand at least ⊢
      split <;> omega
    have bound : (2 ^ 52 + 1 : ℚ) ≤ x.significand := by exact_mod_cast inner
    have gap := x.gapBelow_le
    linarith

/-- What reads back as the smaller of two doubles does not read back as the greater one. -/
theorem not_holds_of_lt (nonzero : x.isZero = false) (nonzero' : y.isZero = false)
    (order : x.power < y.power ∨ x.power = y.power ∧ x.significand < y.significand) {q : ℚ}
    (inside : x.interval.Holds q) : ¬ y.interval.Holds q := by
  intro inside'
  have quarter := x.quarter_pos
  have below := le_high_of_holds nonzero inside
  have above := low_le_of_holds nonzero' inside'
  -- The intervals can touch in one point, which goes to an even significand. Below a raised power stands the
  -- greatest significand, which is odd, and neighbours of one power are not both even.
  rcases order with powers | ⟨powers, significands⟩
  · have double : 2 * x.quarter ≤ y.quarter := by
      have two : (2 : ℚ) ≠ 0 := by norm_num
      unfold Binary64.quarter
      rw [mul_comm, ← zpow_add_one₀ two]
      exact zpow_le_zpow_right₀ (by norm_num) (by omega)
    have low : (2 ^ 54 - 1) * (2 * x.quarter) ≤ (4 * y.significand - y.gapBelow) * y.quarter :=
      mul_le_mul (low_ge_of_raised (by omega)) double (by linarith) (by linarith [low_ge_of_raised (x := y) (by omega)])
    rcases below with below | ⟨even, below⟩
    · have bound : (x.significand : ℚ) ≤ 2 ^ 53 - 1 := by
        have small := x.significand_lt
        have natural : x.significand + 1 ≤ 2 ^ 53 := by omega
        have cast : (x.significand : ℚ) + 1 ≤ 2 ^ 53 := by exact_mod_cast natural
        linarith
      have high : (4 * x.significand + 2) * x.quarter ≤ (4 * (2 ^ 53 - 1) + 2) * x.quarter :=
        mul_le_mul_of_nonneg_right (by linarith) quarter.le
      rcases above with above | ⟨_, above⟩ <;> linarith
    · have bound : (x.significand : ℚ) ≤ 2 ^ 53 - 2 := by
        have small := x.significand_lt
        have natural : x.significand + 2 ≤ 2 ^ 53 := by omega
        have cast : (x.significand : ℚ) + 2 ≤ 2 ^ 53 := by exact_mod_cast natural
        linarith
      have high : (4 * x.significand + 2) * x.quarter ≤ (4 * (2 ^ 53 - 2) + 2) * x.quarter :=
        mul_le_mul_of_nonneg_right (by linarith) quarter.le
      rcases above with above | ⟨_, above⟩ <;> linarith
  · have same : y.quarter = x.quarter := by
      unfold Binary64.quarter
      rw [powers]
    have gap := y.gapBelow_le
    rw [same] at above
    have ordered (k : ℚ) (distance : (x.significand : ℚ) + k ≤ y.significand) :
        (4 * x.significand + 4 * k - 2) * x.quarter ≤ (4 * y.significand - y.gapBelow) * x.quarter :=
      mul_le_mul_of_nonneg_right (by linarith) quarter.le
    have next := ordered 1 (by exact_mod_cast significands)
    rcases below with below | ⟨even, below⟩
    · rcases above with above | ⟨_, above⟩ <;> linarith
    · rcases above with above | ⟨even', above⟩
      · linarith
      · have further := ordered 2 (by exact_mod_cast (by omega : x.significand + 2 ≤ y.significand))
        linarith

/-- A number reads back as one double only. -/
theorem holds_unique (nonzero : x.isZero = false) (nonzero' : y.isZero = false) {q : ℚ}
    (inside : x.interval.Holds q) (inside' : y.interval.Holds q) :
    x.power = y.power ∧ x.significand = y.significand := by
  have left (order : x.power < y.power ∨ x.power = y.power ∧ x.significand < y.significand) : False :=
    not_holds_of_lt nonzero nonzero' order inside inside'
  have right (order : y.power < x.power ∨ y.power = x.power ∧ y.significand < x.significand) : False :=
    not_holds_of_lt nonzero' nonzero order inside' inside
  rcases Nat.lt_trichotomy x.power y.power with less | same | greater
  · exact absurd (Or.inl less) left
  · rcases Nat.lt_trichotomy x.significand y.significand with less | equal | greater
    · exact absurd (Or.inr ⟨same, less⟩) left
    · exact ⟨same, equal⟩
    · exact absurd (Or.inr ⟨same.symm, greater⟩) right
  · exact absurd (Or.inl greater) right

end Binary64

end FieldFilter
