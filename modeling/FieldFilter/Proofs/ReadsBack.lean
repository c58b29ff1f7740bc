namespace FieldFilter

variable {α β γ : Type}

/-- Whatever stands behind it, a spelling tells what was spelled and where it ends. Only `valid` things are
spelled, only what `ends` a spelling may stand behind it, and of the things themselves a reader learns the
`meaning`. -/
def ReadsBack (valid : α → Prop) (ends : List Char → Prop) (spell : α → List Char) (meaning : α → β) : Prop :=
  ∀ ⦃a b : α⦄ ⦃r s : List Char⦄, valid a → valid b → ends r → ends s → spell a ++ r = spell b ++ s →
    meaning a = meaning b ∧ r = s

/-- A text that does not begin with a character of the class. -/
def StartsOutside (p : Char → Bool) (r : List Char) : Prop :=
  ∀ c ∈ r.head?, p c = false

@[simp] theorem startsOutside_nil (p : Char → Bool) : StartsOutside p [] := by
  simp [StartsOutside]

@[simp] theorem startsOutside_cons {p : Char → Bool} {c : Char} {r : List Char} :
    StartsOutside p (c :: r) ↔ p c = false := by
  simp [StartsOutside]

theorem append_ne_of_heads {c d : Char} {s t : List Char} (left : ∃ rest, s = c :: rest)
    (right : ∃ rest, t = d :: rest) (differ : c ≠ d) (r u : List Char) : s ++ r ≠ t ++ u := by
  obtain ⟨rest, rfl⟩ := left
  obtain ⟨rest', rfl⟩ := right
  intro same
  exact differ (List.cons.inj same).1

namespace ReadsBack

variable {valid : α → Prop} {ends inside : List Char → Prop} {spell : α → List Char} {meaning : α → β}

theorem meaning_eq (reads : ReadsBack valid ends spell meaning) (nil : ends []) {a b : α} (left : valid a)
    (right : valid b) (same : spell a = spell b) : meaning a = meaning b := by
  have appended : spell a ++ [] = spell b ++ [] := congrArg (· ++ []) same
  exact (reads left right nil nil appended).1

theorem mono {valid' : α → Prop} {ends' : List Char → Prop} (reads : ReadsBack valid ends spell meaning)
    (narrow : ∀ a, valid' a → valid a) (stops : ∀ r, ends' r → ends r) :
    ReadsBack valid' ends' spell meaning :=
  fun _ _ _ _ left right atLeft atRight same =>
    reads (narrow _ left) (narrow _ right) (stops _ atLeft) (stops _ atRight) same

/-- A reader may learn something else, if it follows from what he learns. -/
theorem tells {meaning' : α → γ} (reads : ReadsBack valid ends spell meaning)
    (follows : ∀ a b, valid a → valid b → meaning a = meaning b → meaning' a = meaning' b) :
    ReadsBack valid ends spell meaning' := by
  intro a b r s left right atLeft atRight same
  obtain ⟨equal, rests⟩ := reads left right atLeft atRight same
  exact ⟨follows a b left right equal, rests⟩

theorem comap (reads : ReadsBack valid ends spell meaning) (f : γ → α) :
    ReadsBack (fun c => valid (f c)) ends (fun c => spell (f c)) (fun c => meaning (f c)) :=
  fun _ _ _ _ left right atLeft atRight same => reads left right atLeft atRight same

/-- Spellings none of which is the beginning of another end anywhere. -/
theorem of_prefixFree (free : ∀ a b, valid a → valid b → spell a <+: spell b → a = b) :
    ReadsBack valid (fun _ => True) spell id := by
  intro a b r s left right _ _ same
  have begins : spell a <+: spell b ++ s := ⟨r, same⟩
  have equal : a = b := by
    rcases List.prefix_or_prefix_of_prefix begins (List.prefix_append (spell b) s) with short | long
    · exact free a b left right short
    · exact (free b a right left long).symm
  subst equal
  exact ⟨rfl, List.append_cancel_left same⟩

/-- A word ends before the first character that words are not made of. -/
theorem of_words {p : Char → Bool} (letters : ∀ a, valid a → ∀ c ∈ spell a, p c = true)
    (apart : ∀ a b, valid a → valid b → spell a = spell b → meaning a = meaning b) :
    ReadsBack valid (StartsOutside p) spell meaning := by
  have word {a : α} {r : List Char} (given : valid a) (atEnd : StartsOutside p r) :
      (spell a ++ r).takeWhile p = spell a := by
    rw [List.takeWhile_append_of_pos (letters a given)]
    cases r with
    | nil => simp
    | cons c rest => simp [startsOutside_cons.1 atEnd]
  intro a b r s left right atLeft atRight same
  have words := congrArg (List.takeWhile p) same
  rw [word left atLeft, word right atRight] at words
  rw [words] at same
  exact ⟨apart a b left right words, List.append_cancel_left same⟩

theorem between (opening : List Char) {closing : List Char}
    (reads : ReadsBack valid (fun r => ∃ s, r = closing ++ s ∧ ends s) spell meaning) :
    ReadsBack valid ends (fun a => opening ++ spell a ++ closing) meaning := by
  intro a b r s left right atLeft atRight same
  simp only [List.append_assoc, List.append_cancel_left_eq] at same
  obtain ⟨equal, rests⟩ := reads left right ⟨r, rfl, atLeft⟩ ⟨s, rfl, atRight⟩ same
  exact ⟨equal, List.append_cancel_left rests⟩

theorem behind {opening : List Char} (reads : ReadsBack valid ends spell meaning) :
    ReadsBack valid ends (fun a => opening ++ spell a) meaning := by
  intro a b r s left right atLeft atRight same
  rw [List.append_assoc, List.append_assoc] at same
  exact reads left right atLeft atRight (List.append_cancel_left same)

/-- Spellings in a row, if no spelling looks like the end of the row. -/
theorem flatMap (reads : ReadsBack valid inside spell meaning) (stops : ∀ r, ends r → inside r)
    (continues : ∀ a r, valid a → inside (spell a ++ r)) (apart : ∀ a r, valid a → ¬ ends (spell a ++ r)) :
    ReadsBack (fun l => ∀ a ∈ l, valid a) ends (fun l => l.flatMap spell) (List.map meaning) := by
  have behind {l : List α} {r : List Char} (given : ∀ a ∈ l, valid a) (atEnd : ends r) :
      inside (l.flatMap spell ++ r) := by
    cases l with
    | nil => exact stops r atEnd
    | cons a rest =>
      rw [List.flatMap_cons, List.append_assoc]
      exact continues a _ (given a List.mem_cons_self)
  intro l m r s left right atLeft atRight same
  -- One row cannot end where the other goes on: a spelling would look like the end.
  induction l generalizing m with
  | nil =>
    cases m with
    | nil => exact ⟨rfl, same⟩
    | cons b rest =>
      simp only [List.flatMap_nil, List.nil_append, List.flatMap_cons, List.append_assoc] at same
      exact absurd (same ▸ atLeft) (apart b _ (right b List.mem_cons_self))
  | cons a rest ih =>
    cases m with
    | nil =>
      simp only [List.flatMap_nil, List.nil_append, List.flatMap_cons, List.append_assoc] at same
      exact absurd (same ▸ atRight) (apart a _ (left a List.mem_cons_self))
    | cons b rest' =>
      rw [List.forall_mem_cons] at left right
      simp only [List.flatMap_cons, List.append_assoc] at same
      obtain ⟨head, tails⟩ := reads left.1 right.1 (behind left.2 atLeft) (behind right.2 atRight) same
      obtain ⟨tail, rests⟩ := ih left.2 right.2 tails
      rw [List.map_cons, List.map_cons, head, tail]
      exact ⟨rfl, rests⟩

end ReadsBack

theorem intercalate_cons_eq_flatMap (separator first : List α) (rest : List (List α)) :
    separator.intercalate (first :: rest) = first ++ rest.flatMap (separator ++ ·) := by
  induction rest generalizing first with
  | nil => simp [List.intercalate]
  | cons second rest ih =>
    have unfolded : separator.intercalate (first :: second :: rest) =
        first ++ (separator ++ separator.intercalate (second :: rest)) := by
      simp [List.intercalate]
    rw [unfolded, ih second, List.flatMap_cons, List.append_assoc]

/-- Spellings in a row with a separator between them, if neither a spelling nor the separator looks like
the end of the row. -/
theorem ReadsBack.intercalate {valid : α → Prop} {ends inside : List Char → Prop} {spell : α → List Char}
    {meaning : α → β} {separator : List Char} (reads : ReadsBack valid inside spell meaning)
    (stops : ∀ r, ends r → inside r) (separates : ∀ r, inside (separator ++ r))
    (apart : ∀ a r, valid a → ¬ ends (spell a ++ r)) (ended : ∀ r, ¬ ends (separator ++ r)) :
    ReadsBack (fun l => ∀ a ∈ l, valid a) ends (fun l => separator.intercalate (l.map spell))
      (List.map meaning) := by
  have rows : ReadsBack (fun l => ∀ a ∈ l, valid a) ends
      (fun l => l.flatMap fun a => separator ++ spell a) (List.map meaning) := by
    refine flatMap reads.behind stops (fun a r _ => ?_) (fun a r _ => ?_)
    · rw [List.append_assoc]
      exact separates _
    · rw [List.append_assoc]
      exact ended _
  have spelled (a : α) (rest : List α) (r : List Char) :
      separator.intercalate ((a :: rest).map spell) ++ r =
        spell a ++ ((rest.flatMap fun b => separator ++ spell b) ++ r) := by
    rw [List.map_cons, intercalate_cons_eq_flatMap, List.flatMap_map, List.append_assoc]
  have behind {l : List α} {r : List Char} (atEnd : ends r) :
      inside ((l.flatMap fun b => separator ++ spell b) ++ r) := by
    cases l with
    | nil => exact stops r atEnd
    | cons b rest =>
      rw [List.flatMap_cons, List.append_assoc, List.append_assoc]
      exact separates _
  intro l m r s left right atLeft atRight same
  match l, m with
  | [], [] => exact ⟨rfl, same⟩
  | [], b :: rest =>
    rw [spelled] at same
    exact absurd ((show r = _ from same) ▸ atLeft) (apart b _ (right b List.mem_cons_self))
  | a :: rest, [] =>
    rw [spelled] at same
    exact absurd ((show s = _ from same.symm) ▸ atRight) (apart a _ (left a List.mem_cons_self))
  | a :: rest, b :: rest' =>
    rw [List.forall_mem_cons] at left right
    rw [spelled, spelled] at same
    obtain ⟨head, tails⟩ := reads left.1 right.1 (behind atLeft) (behind atRight) same
    obtain ⟨tail, rests⟩ := rows left.2 right.2 atLeft atRight tails
    rw [List.map_cons, List.map_cons, head, tail]
    exact ⟨rfl, rests⟩

end FieldFilter
