import FieldFilter.Number.Shortest
import Mathlib.Algebra.Order.Field.Power
import Mathlib.Data.Rat.Cast.Order
import Mathlib.Tactic.FieldSimp
import Mathlib.Tactic.Linarith
import Mathlib.Tactic.Positivity
import Mathlib.Tactic.Ring

namespace FieldFilter

/-- The whole number that a row of decimal digits stands for. -/
abbrev readDigits (digits : List Char) : Nat :=
  Nat.ofDigitChars 10 digits 0

/-- The number that a decimal stands for. -/
def Decimal.value (d : Decimal) : ℚ :=
  readDigits d.digits * 10 ^ (d.point - d.digits.length)

/-- The exponent after its letter, if there is one. -/
def readExponent : List Char → Int
  | '-' :: digits => -(readDigits digits : Int)
  | '+' :: digits => readDigits digits
  | _ => 0

/-- The number in front of the exponent. -/
def readFixed (s : List Char) : ℚ :=
  let fraction := (s.dropWhile (· != '.')).drop 1
  readDigits (s.takeWhile (· != '.') ++ fraction) * 10 ^ (-(fraction.length : Int))

/-- The number that a decimal text without a sign stands for. -/
def readDecimal (s : List Char) : ℚ :=
  readFixed (s.takeWhile (· != 'e')) * 10 ^ readExponent ((s.dropWhile (· != 'e')).drop 1)

def AllDigits (s : List Char) : Prop :=
  ∀ c ∈ s, c.isDigit = true

theorem AllDigits.append {s t : List Char} (first : AllDigits s) (second : AllDigits t) : AllDigits (s ++ t) := by
  intro c member
  rcases List.mem_append.1 member with left | right
  · exact first c left
  · exact second c right

theorem allDigits_replicate_zero (n : Nat) : AllDigits (List.replicate n '0') := by
  intro c member
  rw [List.eq_of_mem_replicate member]
  decide

theorem allDigits_toDigits (n : Nat) : AllDigits (Nat.toDigits 10 n) :=
  fun _ member => Nat.isDigit_of_mem_toDigits (by decide) (by decide) member

theorem AllDigits.take {s : List Char} (digits : AllDigits s) (n : Nat) : AllDigits (s.take n) :=
  fun c member => digits c (List.mem_of_mem_take member)

theorem AllDigits.drop {s : List Char} (digits : AllDigits s) (n : Nat) : AllDigits (s.drop n) :=
  fun c member => digits c (List.mem_of_mem_drop member)

/-- Digits do not contain a character of another kind. -/
theorem AllDigits.ne {s : List Char} (digits : AllDigits s) {x : Char} (other : x.isDigit = false) :
    ∀ c ∈ s, (c != x) = true := by
  intro c member
  have isDigit := digits c member
  by_cases same : c = x
  · rw [same, other] at isDigit
    exact absurd isDigit (by decide)
  · simpa using same

theorem takeWhile_ne_append {s rest : List Char} {x : Char} (free : ∀ c ∈ s, (c != x) = true) :
    (s ++ x :: rest).takeWhile (· != x) = s := by
  rw [List.takeWhile_append_of_pos free]
  simp

theorem dropWhile_ne_append {s rest : List Char} {x : Char} (free : ∀ c ∈ s, (c != x) = true) :
    (s ++ x :: rest).dropWhile (· != x) = x :: rest := by
  rw [List.dropWhile_append_of_pos free]
  simp

theorem takeWhile_ne_self {s : List Char} {x : Char} (free : ∀ c ∈ s, (c != x) = true) :
    s.takeWhile (· != x) = s := by
  have whole : (s ++ []).takeWhile (· != x) = s ++ [].takeWhile (· != x) := List.takeWhile_append_of_pos free
  simpa using whole

theorem dropWhile_ne_self {s : List Char} {x : Char} (free : ∀ c ∈ s, (c != x) = true) :
    s.dropWhile (· != x) = [] := by
  have whole : (s ++ []).dropWhile (· != x) = [].dropWhile (· != x) := List.dropWhile_append_of_pos free
  simpa using whole

theorem readFixed_pointed {whole fraction : List Char} (digits : AllDigits whole) :
    readFixed (whole ++ '.' :: fraction) =
      readDigits (whole ++ fraction) * 10 ^ (-(fraction.length : Int)) := by
  have free := digits.ne (x := '.') (by decide)
  simp only [readFixed, takeWhile_ne_append free, dropWhile_ne_append free, List.drop_succ_cons, List.drop_zero]

theorem readFixed_digits {whole : List Char} (digits : AllDigits whole) :
    readFixed whole = readDigits whole := by
  have free := digits.ne (x := '.') (by decide)
  simp only [readFixed, takeWhile_ne_self free, dropWhile_ne_self free, List.drop_nil, List.append_nil]
  simp

theorem readDecimal_fixed {s : List Char} (free : ∀ c ∈ s, (c != 'e') = true) : readDecimal s = readFixed s := by
  simp only [readDecimal, takeWhile_ne_self free, dropWhile_ne_self free, List.drop_nil, readExponent]
  simp

theorem readDecimal_exponent {s exponent : List Char} (free : ∀ c ∈ s, (c != 'e') = true) :
    readDecimal (s ++ 'e' :: exponent) = readFixed s * 10 ^ readExponent exponent := by
  simp only [readDecimal, takeWhile_ne_append free, dropWhile_ne_append free, List.drop_succ_cons, List.drop_zero]

theorem readDigits_append_zeros (digits : List Char) (n : Nat) :
    readDigits (digits ++ List.replicate n '0') = readDigits digits * 10 ^ n := by
  rw [readDigits, Nat.ofDigitChars_append, Nat.ofDigitChars_replicate_zero, Nat.mul_comm]

theorem readDigits_zero_cons (digits : List Char) : readDigits ('0' :: digits) = readDigits digits := by
  simp [readDigits, Nat.ofDigitChars_cons]

theorem readDigits_zeros_append (digits : List Char) (n : Nat) :
    readDigits (List.replicate n '0' ++ digits) = readDigits digits := by
  rw [readDigits, Nat.ofDigitChars_append, Nat.ofDigitChars_replicate_zero, Nat.mul_zero]

theorem readExponent_exponentText (e : Int) : readExponent (exponentText e) = e := by
  have padded : readDigits (if (Nat.toDigits 10 e.natAbs).length < 2 then '0' :: Nat.toDigits 10 e.natAbs
      else Nat.toDigits 10 e.natAbs) = e.natAbs := by
    split
    · rw [readDigits_zero_cons, readDigits, Nat.ofDigitChars_ten_toDigits]
    · rw [readDigits, Nat.ofDigitChars_ten_toDigits]
  unfold exponentText
  by_cases negative : e < 0
  · simp only [negative, if_true, readExponent, padded]
    omega
  · simp only [negative, if_false, readExponent, padded]
    omega

namespace Decimal

theorem readFixed_positional {d : Decimal} (digits : AllDigits d.digits) : readFixed d.positional = d.value := by
  unfold positional value
  -- The point stands in front of all digits, behind all of them, or among them.
  by_cases small : d.point ≤ 0
  · have split : '0' :: '.' :: List.replicate (-d.point).toNat '0' ++ d.digits =
        ['0'] ++ '.' :: (List.replicate (-d.point).toNat '0' ++ d.digits) := rfl
    have zero : AllDigits ['0'] := allDigits_replicate_zero 1
    rw [if_pos small, split, readFixed_pointed zero, List.singleton_append, readDigits_zero_cons,
      readDigits_zeros_append, List.length_append, List.length_replicate]
    congr 2
    omega
  · rw [if_neg small]
    by_cases short : d.digits.length ≤ d.point.toNat
    · have split : d.digits ++ List.replicate (d.point.toNat - d.digits.length) '0' ++ ['.', '0'] =
          (d.digits ++ List.replicate (d.point.toNat - d.digits.length) '0') ++ '.' :: ['0'] := rfl
      have zeros : ['0'] = List.replicate 1 '0' := rfl
      have exponent : d.point - d.digits.length = (d.point.toNat - d.digits.length : Nat) := by omega
      simp only [short, if_true]
      rw [split, readFixed_pointed (digits.append (allDigits_replicate_zero _)), zeros, readDigits_append_zeros,
        readDigits_append_zeros, exponent, zpow_natCast, List.length_replicate]
      push_cast
      rw [zpow_neg, zpow_one]
      field_simp
    · simp only [short, if_false]
      rw [readFixed_pointed (digits.take _), List.take_append_drop, List.length_drop]
      congr 2
      omega

theorem readDecimal_scientific {d : Decimal} (digits : AllDigits d.digits) (some : d.digits ≠ []) :
    readDecimal d.scientific = d.value := by
  have ten : (10 : ℚ) ≠ 0 := by norm_num
  unfold scientific value
  match row : d.digits with
  | [] => exact absurd row some
  | [digit] =>
    rw [row] at digits
    have free := digits.ne (x := 'e') (by decide)
    have split : digit :: 'e' :: exponentText (d.point - 1) = [digit] ++ 'e' :: exponentText (d.point - 1) := rfl
    simp only [split]
    rw [readDecimal_exponent free, readFixed_digits digits, readExponent_exponentText]
    rfl
  | digit :: second :: rest =>
    rw [row] at digits
    have first : AllDigits [digit] := digits.take 1
    have others : AllDigits (second :: rest) := digits.drop 1
    have free : ∀ c ∈ [digit] ++ '.' :: second :: rest, (c != 'e') = true := by
      intro c member
      rcases List.mem_append.1 member with head | tail
      · exact first.ne (by decide) c head
      · rcases List.mem_cons.1 tail with rfl | later
        · decide
        · exact others.ne (by decide) c later
    have split : digit :: '.' :: (second :: rest) ++ 'e' :: exponentText (d.point - 1) =
        ([digit] ++ '.' :: second :: rest) ++ 'e' :: exponentText (d.point - 1) := rfl
    simp only [split]
    rw [readDecimal_exponent free, readFixed_pointed first, readExponent_exponentText, List.singleton_append,
      mul_assoc, ← zpow_add₀ ten]
    congr 2
    simp only [List.length_cons]
    push_cast
    ring

theorem mem_positional {d : Decimal} (digits : AllDigits d.digits) {c : Char} (member : c ∈ d.positional) :
    c.isDigit = true ∨ c = '.' := by
  have zero : ('0' : Char).isDigit = true := by decide
  have zeros := fun n => allDigits_replicate_zero n c
  have front := fun n => digits.take n c
  have back := fun n => digits.drop n c
  unfold positional at member
  split at member
  · simp only [List.cons_append, List.mem_cons, List.mem_append] at member
    rcases member with rfl | rfl | filling | digit
    · exact Or.inl zero
    · exact Or.inr rfl
    · exact Or.inl (zeros _ filling)
    · exact Or.inl (digits c digit)
  · simp only at member
    split at member
    · simp only [List.mem_append, List.mem_cons, List.not_mem_nil, or_false] at member
      rcases member with (digit | filling) | rfl | rfl
      · exact Or.inl (digits c digit)
      · exact Or.inl (zeros _ filling)
      · exact Or.inr rfl
      · exact Or.inl zero
    · simp only [List.mem_append, List.mem_cons] at member
      rcases member with digit | rfl | digit
      · exact Or.inl (front _ digit)
      · exact Or.inr rfl
      · exact Or.inl (back _ digit)

theorem mem_exponentText {e : Int} {c : Char} (member : c ∈ exponentText e) :
    c.isDigit = true ∨ c = '+' ∨ c = '-' := by
  have zero : ('0' : Char).isDigit = true := by decide
  have digits := allDigits_toDigits e.natAbs c
  unfold exponentText at member
  rcases List.mem_cons.1 member with sign | digit
  · split at sign
    · exact Or.inr (Or.inr sign)
    · exact Or.inr (Or.inl sign)
  · split at digit
    · rcases List.mem_cons.1 digit with rfl | digit
      · exact Or.inl zero
      · exact Or.inl (digits digit)
    · exact Or.inl (digits digit)

theorem mem_scientific {d : Decimal} (digits : AllDigits d.digits) {c : Char} (member : c ∈ d.scientific) :
    c.isDigit = true ∨ c ∈ ['.', 'e', '+', '-'] := by
  have exponent (inside : c ∈ exponentText (d.point - 1)) : c.isDigit = true ∨ c ∈ ['.', 'e', '+', '-'] := by
    rcases mem_exponentText inside with digit | rfl | rfl
    · exact Or.inl digit
    · exact Or.inr (by decide)
    · exact Or.inr (by decide)
  have given := digits c
  unfold scientific at member
  split at member
  · exact absurd member List.not_mem_nil
  · rename_i row
    rw [row] at given
    simp only [List.mem_cons] at member
    rcases member with rfl | rfl | inside
    · exact Or.inl (given List.mem_cons_self)
    · exact Or.inr (by decide)
    · exact exponent inside
  · rename_i row
    rw [row] at given
    simp only [List.cons_append, List.mem_cons, List.mem_append] at member
    rcases member with rfl | rfl | later | rfl | inside
    · exact Or.inl (given List.mem_cons_self)
    · exact Or.inr (by decide)
    · exact Or.inl (given (List.mem_cons_of_mem _ later))
    · exact Or.inr (by decide)
    · exact exponent inside

/-- The text of a decimal reads back as its value. -/
theorem readDecimal_text {d : Decimal} (digits : AllDigits d.digits) (some : d.digits ≠ []) :
    readDecimal d.text = d.value := by
  unfold text
  split
  · have free : ∀ c ∈ d.positional, (c != 'e') = true := by
      intro c member
      rcases mem_positional digits member with digit | rfl
      · by_cases same : c = 'e'
        · rw [same] at digit
          exact absurd digit (by decide)
        · simpa using same
      · decide
    rw [readDecimal_fixed free, readFixed_positional digits]
  · exact readDecimal_scientific digits some

theorem mem_text {d : Decimal} (digits : AllDigits d.digits) {c : Char} (member : c ∈ d.text) :
    c.isDigit = true ∨ c ∈ ['.', 'e', '+', '-'] := by
  unfold text at member
  split at member
  · rcases mem_positional digits member with digit | rfl
    · exact Or.inl digit
    · exact Or.inr (by decide)
  · exact mem_scientific digits member

/-- The text of a decimal is never the text of a whole number. -/
theorem mark_mem_text {d : Decimal} (some : d.digits ≠ []) : '.' ∈ d.text ∨ 'e' ∈ d.text := by
  unfold text
  split
  · refine Or.inl ?_
    unfold positional
    split
    · simp
    · simp only
      split <;> simp
  · refine Or.inr ?_
    unfold scientific
    match row : d.digits with
    | [] => exact absurd row some
    | [digit] => simp
    | digit :: second :: rest => simp

theorem text_begins {d : Decimal} (digits : AllDigits d.digits) (some : d.digits ≠ []) :
    ∃ c rest, d.text = c :: rest ∧ c.isDigit = true := by
  obtain ⟨first, others, row⟩ := List.exists_cons_of_ne_nil some
  have given : first.isDigit = true := digits first (by rw [row]; exact List.mem_cons_self)
  unfold text
  split
  · unfold positional
    split
    · exact ⟨'0', _, rfl, by decide⟩
    · rename_i large
      simp only
      split
      · rw [row]
        exact ⟨first, _, rfl, given⟩
      · obtain ⟨n, whole⟩ : ∃ n, d.point.toNat = n + 1 := ⟨d.point.toNat - 1, by omega⟩
        rw [row, whole, List.take_succ_cons]
        exact ⟨first, _, rfl, given⟩
  · unfold scientific
    match others with
    | [] =>
      rw [row]
      exact ⟨first, _, rfl, given⟩
    | second :: rest =>
      rw [row]
      exact ⟨first, _, rfl, given⟩

theorem dropTrailingZeros_append (digits : List Char) :
    ∃ n, digits = dropTrailingZeros digits ++ List.replicate n '0' := by
  refine ⟨(digits.reverse.takeWhile (· == '0')).length, ?_⟩
  have zeros : digits.reverse.takeWhile (· == '0') =
      List.replicate (digits.reverse.takeWhile (· == '0')).length '0' := by
    refine List.eq_replicate_iff.2 ⟨rfl, fun c member => ?_⟩
    have isZero := List.all_eq_true.1 List.all_takeWhile c member
    simpa using isZero
  rw [dropTrailingZeros, ← List.reverse_replicate, ← zeros, ← List.reverse_append,
    List.takeWhile_append_dropWhile, List.reverse_reverse]

theorem allDigits_ofScaled (n : Nat) (e : Int) : AllDigits (ofScaled n e).digits := by
  obtain ⟨zeros, row⟩ := dropTrailingZeros_append (Nat.toDigits 10 n)
  intro c member
  refine allDigits_toDigits n c ?_
  rw [row]
  exact List.mem_append_left _ member

theorem value_ofScaled (n : Nat) (e : Int) : (ofScaled n e).value = n * 10 ^ e := by
  have ten : (10 : ℚ) ≠ 0 := by norm_num
  obtain ⟨zeros, row⟩ := dropTrailingZeros_append (Nat.toDigits 10 n)
  have whole : n = readDigits (dropTrailingZeros (Nat.toDigits 10 n)) * 10 ^ zeros := by
    rw [← readDigits_append_zeros, ← row, readDigits, Nat.ofDigitChars_ten_toDigits]
  have lengths := congrArg List.length row
  rw [List.length_append, List.length_replicate] at lengths
  have exponent : e + (Nat.toDigits 10 n).length - (dropTrailingZeros (Nat.toDigits 10 n)).length = zeros + e := by
    omega
  show (readDigits (dropTrailingZeros (Nat.toDigits 10 n)) : ℚ) *
    10 ^ (e + (Nat.toDigits 10 n).length - (dropTrailingZeros (Nat.toDigits 10 n)).length) = n * 10 ^ e
  rw [exponent, zpow_add₀ ten, zpow_natCast, ← mul_assoc]
  congr 1
  exact_mod_cast whole.symm

theorem digits_ne_nil {d : Decimal} (positive : 0 < d.value) : d.digits ≠ [] := by
  intro empty
  rw [value, empty] at positive
  simp [readDigits] at positive

end Decimal

end FieldFilter
