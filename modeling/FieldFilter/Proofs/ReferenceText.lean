import Mathlib.Data.List.Infix
import FieldFilter.Proofs.ValueText
import FieldFilter.Proofs.Writing

namespace FieldFilter

/-- What the reference dialect writes between two texts of a list: the closing quote of the first, a comma, and the
opening quote of the second. -/
def betweenTexts : List Char :=
  ['\'', ',', '\'']

/-- Texts that a reader finds who goes from left to right and takes each quote, comma and quote that he meets for the
end of a text. -/
def Unbroken : List (List Char) → Prop
  | [] => True
  | [s] => ¬ betweenTexts <:+: s
  | s :: rest => ¬ betweenTexts <:+: s ++ ['\''] ∧ Unbroken rest

/-- A text that goes on where another one ends reaches over what stands between them, unless it is the same. -/
theorem eq_nil_of_ahead {s ahead r u : List Char} (unbroken : ¬ betweenTexts <:+: s ++ ahead ++ ['\''])
    (same : betweenTexts ++ r = ahead ++ (betweenTexts ++ u)) : ahead = [] := by
  match ahead with
  | [] => rfl
  | [c] => simp [betweenTexts] at same
  | [c, d] =>
    obtain ⟨rfl, rfl, _⟩ : '\'' = c ∧ ',' = d ∧ _ := by simpa [betweenTexts] using same
    refine absurd ?_ unbroken
    rw [List.append_assoc]
    exact List.infix_append' s betweenTexts []
  | c :: d :: e :: rest =>
    obtain ⟨rfl, rfl, rfl, _⟩ : '\'' = c ∧ ',' = d ∧ '\'' = e ∧ _ := by simpa [betweenTexts] using same
    refine absurd ?_ unbroken
    rw [List.append_assoc]
    exact List.infix_append' s betweenTexts (rest ++ ['\''])

theorem first_text_eq {s t r u : List Char} (unbroken : ¬ betweenTexts <:+: s ++ ['\''])
    (unbroken' : ¬ betweenTexts <:+: t ++ ['\'']) (same : s ++ (betweenTexts ++ r) = t ++ (betweenTexts ++ u)) :
    s = t := by
  rcases List.append_eq_append_iff.1 same with ⟨ahead, rfl, rest⟩ | ⟨ahead, rfl, rest⟩
  · rw [eq_nil_of_ahead unbroken' rest, List.append_nil]
  · rw [eq_nil_of_ahead unbroken rest, List.append_nil]

theorem between_infix_intercalate (s t : List Char) (rest : List (List Char)) :
    betweenTexts <:+: betweenTexts.intercalate (s :: t :: rest) := by
  rw [List.intercalate_cons_cons]
  exact List.infix_append s betweenTexts _

theorem unbroken_of_clear {l : List (List Char)} (clear : ¬ betweenTexts <:+: betweenTexts.intercalate l) :
    Unbroken l := by
  match l with
  | [] => trivial
  | [s] => exact fun found => clear (by rwa [List.intercalate_singleton])
  | s :: t :: rest => exact absurd (between_infix_intercalate s t rest) clear

/-- Unbroken texts are found again in what is written for them. -/
theorem Unbroken.intercalate_injective {l m : List (List Char)} (unbroken : Unbroken l) (unbroken' : Unbroken m)
    (some : l ≠ []) (some' : m ≠ []) (same : betweenTexts.intercalate l = betweenTexts.intercalate m) : l = m := by
  induction l generalizing m with
  | nil => exact absurd rfl some
  | cons s rest ih =>
    obtain ⟨t, others, rfl⟩ := List.exists_cons_of_ne_nil some'
    cases rest with
    | nil =>
      cases others with
      | nil =>
        simp only [List.intercalate_singleton] at same
        rw [same]
      | cons t' others =>
        rw [List.intercalate_singleton] at same
        exact absurd (same ▸ between_infix_intercalate t t' others) unbroken
    | cons s' rest =>
      cases others with
      | nil =>
        rw [List.intercalate_singleton] at same
        exact absurd (same ▸ between_infix_intercalate s s' rest) unbroken'
      | cons t' others =>
        simp only [List.intercalate_cons_cons, List.append_assoc] at same
        obtain rfl := first_text_eq unbroken.1 unbroken'.1 same
        rw [ih unbroken.2 unbroken'.2 (List.cons_ne_nil _ _) (List.cons_ne_nil _ _)
          (List.append_cancel_left (List.append_cancel_left same))]

/-- The first place that looks like the end of a text within a list. -/
theorem exists_first_between {j : List Char} (found : betweenTexts <:+: j) :
    ∃ s rest, j = s ++ (betweenTexts ++ rest) ∧ ¬ betweenTexts <:+: s ++ ['\''] := by
  induction j with
  | nil => exact absurd (List.infix_nil.1 found) (by decide)
  | cons c j ih =>
    by_cases begins : betweenTexts <+: c :: j
    · obtain ⟨rest, whole⟩ := begins
      exact ⟨[], rest, whole.symm, fun short => absurd short.length_le (by decide)⟩
    · obtain ⟨s, rest, rfl, first⟩ := ih ((List.infix_cons_iff.1 found).resolve_left begins)
      refine ⟨c :: s, rest, rfl, fun earlier => ?_⟩
      rcases List.infix_cons_iff.1 earlier with front | later
      · have longer : c :: (s ++ ['\'']) <+: c :: (s ++ (betweenTexts ++ rest)) :=
          ⟨',' :: '\'' :: rest, by simp [betweenTexts]⟩
        exact begins (front.trans longer)
      · exact first later

/-- Whatever is written between the outermost quotes of a list is written for unbroken texts. -/
theorem exists_unbroken (j : List Char) : ∃ l, l ≠ [] ∧ Unbroken l ∧ betweenTexts.intercalate l = j := by
  induction length : j.length using Nat.strongRecOn generalizing j with
  | ind n ih =>
    subst length
    by_cases found : betweenTexts <:+: j
    · obtain ⟨s, rest, rfl, first⟩ := exists_first_between found
      obtain ⟨l, some, unbroken, written⟩ := ih rest.length (by simp [betweenTexts]; omega) rest rfl
      obtain ⟨t, others, rfl⟩ := List.exists_cons_of_ne_nil some
      refine ⟨s :: t :: others, List.cons_ne_nil _ _, ⟨first, unbroken⟩, ?_⟩
      rw [List.intercalate_cons_cons, written, List.append_assoc]
    · exact ⟨[j], List.cons_ne_nil _ _, found, List.intercalate_singleton⟩

namespace Value

/-- A text, or a list of texts. -/
def HoldsTexts (v : Value) : Prop :=
  ∀ s ∈ v.scalars, s.kind = .string

/-- The texts that a value holds. -/
def texts (v : Value) : List (List Char) :=
  v.scalars.map fun s => s.bareText.toList

def ofTexts (parts : List (List Char)) : Value :=
  .list ⟨parts.map fun part => .text (String.ofList part), by
    cases parts <;> simp [kindsOf, ScalarKind.all, Scalar.kind]⟩

theorem texts_ofTexts (parts : List (List Char)) : (ofTexts parts).texts = parts := by
  simp [texts, ofTexts, scalars, Scalar.bareText, Function.comp_def]

theorem holdsTexts_ofTexts (parts : List (List Char)) : (ofTexts parts).HoldsTexts := by
  simp [HoldsTexts, ofTexts, scalars, Scalar.kind]

theorem ofTexts_injective {parts parts' : List (List Char)} (same : ofTexts parts = ofTexts parts') :
    parts = parts' := by
  rw [← texts_ofTexts parts, same, texts_ofTexts]

theorem HoldsTexts.cases {v : Value} (holds : v.HoldsTexts) :
    (∃ s, v = .scalar (.text s)) ∨ ∃ parts, v = ofTexts parts := by
  have text {s : Scalar} (string : s.kind = .string) : s = .text s.bareText := by
    cases s with
    | text s => rfl
    | bool | int | float => cases string
  cases v with
  | scalar s => exact Or.inl ⟨s.bareText, congrArg Value.scalar (text (holds s List.mem_cons_self))⟩
  | list l =>
    have items : l.items = l.items.map fun s => .text (String.ofList s.bareText.toList) := by
      conv_lhs => rw [← List.map_id l.items]
      refine List.map_congr_left fun s member => ?_
      rw [String.ofList_toList]
      exact text (holds s member)
    refine Or.inr ⟨(Value.list l).texts, ?_⟩
    obtain ⟨items', uniform⟩ := l
    simp only [ofTexts, texts, scalars, List.map_map, Function.comp_def, Value.list.injEq, ScalarList.mk.injEq]
    exact items

/-- A text, or a list of texts that are found in what is written for it. -/
def Unbroken (v : Value) : Prop :=
  v.isList = true → FieldFilter.Unbroken v.texts

theorem unbroken_ofTexts_iff {parts : List (List Char)} : (ofTexts parts).Unbroken ↔ FieldFilter.Unbroken parts := by
  rw [Unbroken, texts_ofTexts]
  exact ⟨fun unbroken => unbroken rfl, fun unbroken _ => unbroken⟩

end Value

namespace Dialect

theorem quoted_intercalate (first : List Char) (rest : List (List Char)) :
    [','].intercalate ((first :: rest).map fun part => ['\''] ++ part ++ ['\'']) =
      ['\''] ++ betweenTexts.intercalate (first :: rest) ++ ['\''] := by
  induction rest generalizing first with
  | nil => simp
  | cons second rest ih =>
    have tail := ih second
    rw [List.map_cons] at tail
    rw [List.map_cons, List.map_cons, List.intercalate_cons_cons, tail, List.intercalate_cons_cons]
    simp [betweenTexts]

theorem valueText_ofTexts (parts : List (List Char)) :
    (base.valueText (.ofTexts parts)).toList =
      ['['] ++ [','].intercalate (parts.map fun part => ['\''] ++ part ++ ['\'']) ++ [']'] := by
  rw [Value.ofTexts, valueText_list, List.map_map]
  have item : ((fun s => (base.scalarText s).toList) ∘ fun part => Scalar.text (String.ofList part)) =
      fun part => ['\''] ++ part ++ ['\''] := by
    funext part
    simp [base, plainScalar]
  rw [item]
  rfl

/-- Lists of texts are written alike if what stands between their outermost quotes is the same. -/
theorem valueText_ofTexts_eq_iff {parts parts' : List (List Char)} :
    base.valueText (.ofTexts parts) = base.valueText (.ofTexts parts') ↔
      (parts = [] ↔ parts' = []) ∧ betweenTexts.intercalate parts = betweenTexts.intercalate parts' := by
  rw [← String.toList_inj, valueText_ofTexts, valueText_ofTexts]
  cases parts with
  | nil =>
    cases parts' with
    | nil => simp
    | cons t others =>
      rw [quoted_intercalate]
      simp
  | cons s rest =>
    cases parts' with
    | nil =>
      rw [quoted_intercalate]
      simp
    | cons t others =>
      rw [quoted_intercalate, quoted_intercalate]
      simp

theorem valueText_text_injective {s t : String}
    (same : base.valueText (.scalar (.text s)) = base.valueText (.scalar (.text t))) : s = t := by
  have letters := congrArg String.toList same
  simp only [valueText, base, plainScalar, String.toList_append, List.append_cancel_right_eq,
    List.append_cancel_left_eq] at letters
  exact String.toList_inj.1 letters

theorem valueText_text_ne_ofTexts (s : String) (parts : List (List Char)) :
    base.valueText (.scalar (.text s)) ≠ base.valueText (.ofTexts parts) := by
  intro same
  have letters := congrArg String.toList same
  rw [valueText_ofTexts] at letters
  simp [valueText, base, plainScalar] at letters

theorem eq_of_valueText_eq_text {w : Value} (holds : w.HoldsTexts) {s : String}
    (same : base.valueText w = base.valueText (.scalar (.text s))) : w = .scalar (.text s) := by
  rcases holds.cases with ⟨t, rfl⟩ | ⟨parts, rfl⟩
  · rw [valueText_text_injective same]
  · exact absurd same.symm (valueText_text_ne_ofTexts s parts)

theorem exists_ofTexts_of_valueText_eq {w : Value} (holds : w.HoldsTexts) {parts : List (List Char)}
    (same : base.valueText w = base.valueText (.ofTexts parts)) : ∃ parts', w = .ofTexts parts' := by
  rcases holds.cases with ⟨t, rfl⟩ | ⟨parts', rfl⟩
  · exact absurd same (valueText_text_ne_ofTexts t parts)
  · exact ⟨parts', rfl⟩

/-- Lists of unbroken texts are told from each other by what is written for them. -/
theorem eq_of_unbroken {parts parts' : List (List Char)} (unbroken : Unbroken parts) (unbroken' : Unbroken parts')
    (same : base.valueText (.ofTexts parts) = base.valueText (.ofTexts parts')) : parts = parts' := by
  obtain ⟨empty, written⟩ := valueText_ofTexts_eq_iff.1 same
  by_cases filled : parts = []
  · rw [empty.1 filled, filled]
  · exact unbroken.intercalate_injective unbroken' filled (fun none => filled (empty.2 none)) written

/-- A value of texts is told by its text from all others exactly if it is no list with a quote, a comma and a quote
inside of its outermost quotes. -/
theorem told_by_valueText_iff {v : Value} (holds : v.HoldsTexts) :
    (∀ w : Value, w.HoldsTexts → base.valueText w = base.valueText v → w = v) ↔
      (v.isList = true → ¬ betweenTexts <:+: betweenTexts.intercalate v.texts) := by
  rcases holds.cases with ⟨s, rfl⟩ | ⟨parts, rfl⟩
  · exact ⟨fun _ list => (by cases list), fun _ w holds' same => eq_of_valueText_eq_text holds' same⟩
  · rw [Value.texts_ofTexts]
    refine ⟨fun told _ found => ?_, fun clear w holds' same => ?_⟩
    · -- The texts can be cut apart at what was found, and they can be left together.
      obtain ⟨x, y, cut⟩ := found
      have filled : parts ≠ [] := by
        rintro rfl
        rw [List.intercalate_nil] at cut
        simp [betweenTexts] at cut
      have rewritten {parts' : List (List Char)} (some : parts' ≠ [])
          (written : betweenTexts.intercalate parts' = betweenTexts.intercalate parts) : parts' = parts :=
        Value.ofTexts_injective (told _ (Value.holdsTexts_ofTexts _)
          (valueText_ofTexts_eq_iff.2 ⟨iff_of_false some filled, written⟩))
      have one := rewritten (List.cons_ne_nil (betweenTexts.intercalate parts) []) List.intercalate_singleton
      have two : [x, y] = parts := rewritten (List.cons_ne_nil _ _)
        (by rw [List.intercalate_cons_cons, List.intercalate_singleton, cut])
      exact absurd (congrArg List.length (one.trans two.symm)) (by simp)
    · obtain ⟨parts', rfl⟩ := exists_ofTexts_of_valueText_eq holds' same
      have written := (valueText_ofTexts_eq_iff.1 same).2
      have clear' : ¬ betweenTexts <:+: betweenTexts.intercalate parts := clear rfl
      rw [eq_of_unbroken (unbroken_of_clear (written ▸ clear')) (unbroken_of_clear clear') same]

/-- The values that hold unbroken texts are told from each other by their texts, and every other one has the text of
one of them. -/
theorem told_among_unbroken_iff {v : Value} (holds : v.HoldsTexts) :
    (∀ w : Value, w.HoldsTexts → w.Unbroken → base.valueText w = base.valueText v → w = v) ↔ v.Unbroken := by
  rcases holds.cases with ⟨s, rfl⟩ | ⟨parts, rfl⟩
  · exact ⟨fun _ list => (by cases list), fun _ w holds' _ same => eq_of_valueText_eq_text holds' same⟩
  · refine ⟨fun told => ?_, fun unbroken w holds' unbroken' same => ?_⟩
    · by_cases filled : parts = []
      · rw [Value.unbroken_ofTexts_iff, filled]
        trivial
      · obtain ⟨l, some, unbroken, written⟩ := exists_unbroken (betweenTexts.intercalate parts)
        have unbroken' := Value.unbroken_ofTexts_iff.2 unbroken
        rwa [told _ (Value.holdsTexts_ofTexts l) unbroken'
          (valueText_ofTexts_eq_iff.2 ⟨iff_of_false some filled, written⟩)] at unbroken'
    · obtain ⟨parts', rfl⟩ := exists_ofTexts_of_valueText_eq holds' same
      rw [Value.unbroken_ofTexts_iff] at unbroken unbroken'
      rw [eq_of_unbroken unbroken' unbroken same]

end Dialect

theorem render_reference_value (given : Option String) (settings : Settings) (v : Value) :
    (Store.generic.dialect given).render settings (.value v) = .ok (Dialect.base.valueText v) := by
  have same : (Store.generic.dialect given).valueText v = Dialect.base.valueText v := by cases v <;> rfl
  rw [← same]
  apply Dialect.render_of_writes
  rw [Operand.write]
  exact Writer.writes_append _

/-- In the reference dialect the text of a value of texts is the text of no other such value exactly if the value is
no list with a quote, a comma and a quote inside of its outermost quotes. Values whose texts are unbroken have texts
of their own, and no further value could be added to them. -/
theorem reference_text_tells_value_iff (given : Option String) (settings : Settings) {v : Value}
    (holds : v.HoldsTexts) :
    ∃ text, (Store.generic.dialect given).render settings (.value v) = .ok text ∧
      ((∀ w : Value, w.HoldsTexts →
          (Store.generic.dialect given).render settings (.value w) = .ok text → w = v) ↔
        (v.isList = true → ¬ betweenTexts <:+: betweenTexts.intercalate v.texts)) ∧
      ((∀ w : Value, w.HoldsTexts → w.Unbroken →
          (Store.generic.dialect given).render settings (.value w) = .ok text → w = v) ↔ v.Unbroken) := by
  refine ⟨Dialect.base.valueText v, render_reference_value given settings v, ?_, ?_⟩
  · simp only [render_reference_value, Except.ok.injEq]
    exact Dialect.told_by_valueText_iff holds
  · simp only [render_reference_value, Except.ok.injEq]
    exact Dialect.told_among_unbroken_iff holds

/-- Quotes and commas that do not meet do no harm among unbroken texts, though a list of two texts has the text of a
list of one. -/
theorem reference_text_of_quotes_and_commas :
    let v := Value.ofTexts ["it's".toList, "a,b".toList]
    v.HoldsTexts ∧ ∃ text, (Store.generic.dialect none).render default (.value v) = .ok text ∧
      (¬∀ w : Value, w.HoldsTexts → (Store.generic.dialect none).render default (.value w) = .ok text → w = v) ∧
      ∀ w : Value, w.HoldsTexts → w.Unbroken →
        (Store.generic.dialect none).render default (.value w) = .ok text → w = v := by
  intro v
  have holds : v.HoldsTexts := Value.holdsTexts_ofTexts _
  have unbroken : v.Unbroken := Value.unbroken_ofTexts_iff.2 (by simp only [Unbroken]; decide)
  obtain ⟨text, run, told, among⟩ := reference_text_tells_value_iff none default holds
  refine ⟨holds, text, run, fun unique => told.1 unique rfl ?_, among.2 unbroken⟩
  rw [Value.texts_ofTexts]
  exact between_infix_intercalate _ _ []

/-- Two texts, and one text with a quote, a comma and a quote in their place. -/
theorem lists_of_one_and_two_texts_written_alike :
    ∃ v w : Value, Value.ofDatum (.list [.scalar (.text "a"), .scalar (.text "b")]) = .ok v ∧
      Value.ofDatum (.list [.scalar (.text "a','b")]) = .ok w ∧ v.HoldsTexts ∧ w.HoldsTexts ∧ v ≠ w ∧
      (Store.generic.dialect none).render default (.value v) = .ok "['a','b']" ∧
      (Store.generic.dialect none).render default (.value w) = .ok "['a','b']" := by
  refine ⟨.ofTexts [['a'], ['b']], .ofTexts ["a','b".toList], rfl, rfl, Value.holdsTexts_ofTexts _,
    Value.holdsTexts_ofTexts _, by decide, ?_, ?_⟩
  · rw [render_reference_value]
    rfl
  · rw [render_reference_value]
    rfl

end FieldFilter
