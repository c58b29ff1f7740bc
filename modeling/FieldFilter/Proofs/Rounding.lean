import FieldFilter.Proofs.DecimalText

namespace FieldFilter

namespace RoundingInterval

def center (i : RoundingInterval) : ℚ :=
  i.value / i.denominator

/-- The numbers that read back as the middle. -/
def Holds (i : RoundingInterval) (q : ℚ) : Prop :=
  (i.low : ℚ) / i.denominator < q ∧ q < (i.high : ℚ) / i.denominator ∨
    i.closed = true ∧ (q = (i.low : ℚ) / i.denominator ∨ q = (i.high : ℚ) / i.denominator)

theorem scaledTen_pos (n : Nat) (e : Int) : 0 < (scaledTen n e).2 :=
  Nat.pow_pos (by decide)

theorem scaledTen_value (n : Nat) (e : Int) :
    ((scaledTen n e).1 : ℚ) / ((scaledTen n e).2 : ℚ) = n * 10 ^ e := by
  have ten : (10 : ℚ) ≠ 0 := by norm_num
  simp only [scaledTen, Nat.pow_eq]
  push_cast
  rw [mul_div_assoc, ← zpow_natCast, ← zpow_natCast, ← zpow_sub₀ ten]
  congr 2
  omega

theorem cross_lt {a b c d : Nat} (left : 0 < b) (right : 0 < d) :
    a * d < c * b ↔ (a : ℚ) / b < (c : ℚ) / d := by
  rw [div_lt_div_iff₀ (by exact_mod_cast left) (by exact_mod_cast right)]
  exact_mod_cast Iff.rfl

theorem cross_eq {a b c d : Nat} (left : 0 < b) (right : 0 < d) :
    a * d = c * b ↔ (c : ℚ) / d = (a : ℚ) / b := by
  have b0 : (b : ℚ) ≠ 0 := by exact_mod_cast left.ne'
  have d0 : (d : ℚ) ≠ 0 := by exact_mod_cast right.ne'
  rw [eq_comm, div_eq_div_iff d0 b0]
  exact_mod_cast Iff.rfl

variable {i : RoundingInterval}

theorem contains_iff (positive : 0 < i.denominator) (n : Nat) (e : Int) :
    i.contains n e = true ↔ i.Holds (n * 10 ^ e) := by
  have ten := scaledTen_pos n e
  rw [Holds, ← scaledTen_value, contains]
  simp only [Bool.or_eq_true, Bool.and_eq_true, decide_eq_true_eq, beq_iff_eq]
  rw [cross_lt positive ten, cross_lt ten positive, cross_eq positive ten, cross_eq positive ten]

theorem below_iff (positive : 0 < i.denominator) (e : Int) : i.below e = true ↔ i.center < 10 ^ e := by
  have ten := scaledTen_value 1 e
  rw [Nat.cast_one, one_mul] at ten
  rw [center, ← ten, below, decide_eq_true_eq, cross_lt positive (scaledTen_pos 1 e)]

/-- The middle lies between two neighbours on the grid. -/
theorem floor_le (positive : 0 < i.denominator) (e : Int) :
    (i.floor e : ℚ) * 10 ^ e ≤ i.center ∧ i.center < ((i.floor e + 1 : Nat) : ℚ) * 10 ^ e := by
  have ten := scaledTen_pos 1 e
  have whole : 0 < (scaledTen 1 e).1 := by simp [scaledTen]
  have step : 0 < (scaledTen 1 e).1 * i.denominator := Nat.mul_pos whole positive
  have power := scaledTen_value 1 e
  rw [Nat.cast_one, one_mul] at power
  have below : i.floor e * ((scaledTen 1 e).1 * i.denominator) ≤ i.value * (scaledTen 1 e).2 :=
    Nat.div_mul_le_self _ _
  have above : i.value * (scaledTen 1 e).2 < (i.floor e + 1) * ((scaledTen 1 e).1 * i.denominator) := by
    rw [Nat.mul_comm (i.floor e + 1)]
    exact Nat.lt_mul_div_succ _ step
  have d0 : (0 : ℚ) < i.denominator := by exact_mod_cast positive
  have t0 : (0 : ℚ) < (scaledTen 1 e).2 := by exact_mod_cast ten
  rw [← power, center, ← mul_div_assoc, ← mul_div_assoc]
  constructor
  · rw [div_le_div_iff₀ t0 d0]
    exact_mod_cast (by rw [Nat.mul_assoc]; exact below)
  · rw [div_lt_div_iff₀ d0 t0]
    exact_mod_cast (by rw [Nat.mul_assoc]; exact above)

theorem contains_of_nearest? {n : Nat} {e : Int} (chosen : i.nearest? e = some n) : i.contains n e = true := by
  unfold nearest? at chosen
  simp only at chosen
  cases lower : i.contains (i.floor e) e <;> cases upper : i.contains (i.floor e + 1) e <;>
    simp only [lower, upper, reduceCtorEq, Option.some.injEq] at chosen
  · rw [← chosen, upper]
  · rw [← chosen, lower]
  · split at chosen
    · rw [← chosen, upper]
    · rw [← chosen, lower]

theorem nearest?_isSome {e : Int} (near : i.contains (i.floor e) e = true ∨ i.contains (i.floor e + 1) e = true) :
    (i.nearest? e).isSome = true := by
  unfold nearest?
  simp only
  rcases near with lower | upper
  · cases upper : i.contains (i.floor e + 1) e <;> simp [lower]
  · cases lower : i.contains (i.floor e) e <;> simp [upper]

end RoundingInterval

end FieldFilter
