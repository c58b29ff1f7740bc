import FieldFilter.Proofs.RoundTrip

namespace FieldFilter

namespace Operand

/-- Negating over and over again, as many times as the number says. -/
def negateTimes : Nat → Operand → Except FilterError Operand
  | 0, t => .ok t
  | n + 1, t => (negateTimes n t).bind negate

theorem negateTimes_succ_of_ok {t r : Operand} {n : Nat} (run : negateTimes n t = .ok r) :
    negateTimes (n + 1) t = r.negate := by
  rw [negateTimes, run]
  rfl

/-- Already the first negation lands where negation undoes itself: what the second one yields is negated to what
the first one did. -/
theorem negate_alternates {t r : Operand} (run : t.negate = .ok r) :
    ∃ r', r.negate = .ok r' ∧ r'.negate = .ok r := by
  obtain ⟨r', again, twice⟩ := negate_negated run
  have back : r'.push false = t.push false := push_push false twice
  refine ⟨r', again, ?_⟩
  rw [negate_eq_push, back, ← negate_eq_push, run]

/-- From then on, the two results take turns. -/
theorem negateTimes_alternating {t r r' : Operand} (run : t.negate = .ok r) (forth : r.negate = .ok r')
    (back : r'.negate = .ok r) (n : Nat) :
    negateTimes (2 * n + 1) t = .ok r ∧ negateTimes (2 * n + 2) t = .ok r' := by
  have second {m : Nat} (first : negateTimes m t = .ok r) : negateTimes (m + 1) t = .ok r' := by
    rw [negateTimes_succ_of_ok first, forth]
  induction n with
  | zero =>
    have first : negateTimes 1 t = .ok r := run
    exact ⟨first, second first⟩
  | succ n ih =>
    have first : negateTimes (2 * n + 2 + 1) t = .ok r := by rw [negateTimes_succ_of_ok ih.2, back]
    exact ⟨first, second first⟩

end Operand

/-- What can be negated once can be negated any number of times, and every second result is the same. -/
theorem repeated_negation_never_fails {t r : Operand} (run : t.negate = .ok r) :
    (∀ n, ∃ x, Operand.negateTimes (n + 1) t = .ok x) ∧ Operand.negateTimes 3 t = .ok r ∧
      ∀ n, Operand.negateTimes (n + 3) t = Operand.negateTimes (n + 1) t := by
  obtain ⟨r', forth, back⟩ := Operand.negate_alternates run
  have turns := Operand.negateTimes_alternating run forth back
  have halves (n : Nat) : ∃ k, n = 2 * k ∨ n = 2 * k + 1 := ⟨n / 2, by omega⟩
  refine ⟨fun n => ?_, (turns 1).1, fun n => ?_⟩
  · obtain ⟨k, rfl | rfl⟩ := halves n
    · exact ⟨r, (turns k).1⟩
    · exact ⟨r', (turns k).2⟩
  · obtain ⟨k, rfl | rfl⟩ := halves n
    · exact (turns (k + 1)).1.trans (turns k).1.symm
    · exact (turns (k + 1)).2.trans (turns k).2.symm

/-- The operators of `NOT ((1 > _))` are plain texts here, one group stands right inside another, the comparison
has no right side and the negation has one. -/
theorem repeated_negation_of_unchecked :
    let compared (tag : Tag) := Operand.expression tag (.value (.scalar (.int 1))) .absent
    let t := Operand.expression (.plain "NOT") (.group (.group (compared (.plain "GT"))))
      (.foreign (.list []))
    let r := Operand.group (compared (.known .gt))
    t.negate = .ok r ∧ (∀ n, ∃ x, Operand.negateTimes (n + 1) t = .ok x) ∧ Operand.negateTimes 3 t = .ok r := by
  intro compared t r
  have run : t.negate = .ok r := by
    rw [Operand.negate_eq_push]
    rfl
  obtain ⟨always, third, _⟩ := repeated_negation_never_fails run
  exact ⟨run, always, third⟩

end FieldFilter
