import FieldFilter.Proofs.Fault

namespace FieldFilter

theorem TextBuffer.text_empty_append (s : String) : (TextBuffer.empty.append s).text = s :=
  String.empty_append

namespace Writer

/-- How an action ends on a buffer: well, or with an error. -/
def outcome (w : Writer) (b : TextBuffer) : Except FilterError Unit :=
  match w b with
  | .ok _ _ => .ok ()
  | .error e _ => .error e

/-- The buffer that an action leaves behind, however it ends. -/
def after (w : Writer) (b : TextBuffer) : TextBuffer :=
  match w b with
  | .ok _ b' => b'
  | .error _ b' => b'

/-- The action ends in one way on all buffers, and appends one text to all of them before it does. -/
def Appends (w : Writer) : Prop :=
  ∃ fault, w.Ends fault

theorem Writes.appends {w : Writer} {s : String} (writes : w.Writes s) : w.Appends :=
  ⟨none, writes.ends⟩

theorem appends_append (s : String) : (append s).Appends :=
  (writes_append s).appends

theorem appends_appendOr (text : Except FilterError String) : (appendOr text).Appends :=
  ⟨_, ends_appendOr text⟩

theorem appends_throw (e : FilterError) : Appends (throw e) :=
  ⟨some e, stops_throw e⟩

theorem Appends.seq {w w' : Writer} (first : w.Appends) (second : w'.Appends) : Appends (do w; w') := by
  obtain ⟨fault, ends⟩ := first
  obtain ⟨fault', ends'⟩ := second
  exact ⟨_, ends.seq ends'⟩

/-- However the pieces of an expression are arranged. -/
theorem appends_assemble {symbol left right : Writer} (appendsSymbol : symbol.Appends) (appendsLeft : left.Appends)
    (appendsRight : right.Appends) (pieces : List Piece) : (assemble symbol left right pieces).Appends := by
  induction pieces with
  | nil => exact writes_pure.appends
  | cons piece rest ih =>
    cases piece with
    | text s => exact (appends_append s).seq ih
    | symbol => exact appendsSymbol.seq ih
    | left => exact appendsLeft.seq ih
    | right => exact appendsRight.seq ih

/-- What an action appends to any buffer is what it writes into the empty one. -/
theorem Appends.after_eq {w : Writer} (appends : w.Appends) (b : TextBuffer) :
    w.outcome b = w.outcome .empty ∧ w.after b = b.append (w.after .empty).text := by
  obtain ⟨fault, ends⟩ := appends
  cases fault with
  | none =>
    obtain ⟨s, writes⟩ := ends
    simp only [outcome, after, writes b, writes .empty, TextBuffer.text_empty_append, and_self]
  | some e =>
    obtain ⟨s, stops⟩ := ends
    simp only [outcome, after, stops b, stops .empty, TextBuffer.text_empty_append, and_self]

end Writer

/-- However a filter is put together, writing it in any dialect only appends. -/
theorem Operand.write_appends (d : Dialect) (settings : Settings) (t : Operand) :
    (t.write d settings).Appends := by
  fun_induction Operand.write d settings t with
  | case1 content inner => exact (Writer.appends_append _).seq (inner.seq (Writer.appends_append _))
  | case2 name => exact Writer.appends_appendOr _
  | case3 v => exact Writer.appends_append _
  | case4 u => exact Writer.appends_appendOr _
  -- An expression lacks its value, is a negation that can be carried out or cannot, looks into an empty list, or
  -- is written piece by piece.
  | case5 => exact Writer.appends_throw _
  | case6 tag left right _ _ r _ negated => exact negated
  | case7 => exact Writer.appends_throw _
  | case8 => exact Writer.appends_append _
  | case9 tag left right _ _ _ onLeft onRight =>
    exact Writer.appends_assemble (Writer.appends_appendOr _) onLeft onRight _
  | case10 x => exact Writer.appends_throw _

/-- The buffers that there are: texts have been appended to the empty one, and filters have been written, some of
which may have failed on the way. -/
inductive TextBuffer.Reached : TextBuffer → Prop
  | empty : Reached .empty
  | append {b : TextBuffer} (s : String) : b.Reached → Reached (b.append s)
  | write {b : TextBuffer} (d : Dialect) (settings : Settings) (t : Operand) : b.Reached →
      Reached ((t.write d settings).after b)

theorem TextBuffer.Reached.counted {b : TextBuffer} (reached : b.Reached) : b.length = b.text.length := by
  induction reached with
  | empty => rfl
  | append s _ ih => exact length_append_eq ih s
  | write d settings t _ ih =>
    rw [((t.write_appends d settings).after_eq _).2]
    exact length_append_eq ih _

/-- What is written into a buffer does not depend on what is there. Writing ends as it does on an empty buffer, and
whether or not it fails, the text that it leaves is the earlier one and behind it what it writes into an empty
buffer. The count of characters is right in the end. -/
theorem writing_only_appends (d : Dialect) (settings : Settings) (t : Operand) {b : TextBuffer}
    (reached : b.Reached) :
    let w := t.write d settings
    w.outcome b = w.outcome .empty ∧ (w.after b).text = b.text ++ (w.after .empty).text ∧
      (w.after b).length = (w.after b).text.length := by
  intro w
  obtain ⟨outcome, after⟩ := (t.write_appends d settings).after_eq b
  refine ⟨outcome, ?_, (reached.write d settings t).counted⟩
  rw [after, TextBuffer.text_append]

/-- A conjunction without its right side is written as far as it goes before it fails. Writing it into a buffer that
already holds such a remainder behind another character adds the same once more. -/
theorem remainder_appended_to_remainder :
    let cut := Operand.expression (.known .and) (.expression (.known .eq) (.key "a") (.value (.scalar (.int 1))))
      .absent
    let w := cut.write (Store.generic.dialect none) default
    let b := w.after (TextBuffer.empty.append "é")
    b.Reached ∧ w.outcome b = .error (.unexpectedOperand "NoneType") ∧
      (w.after b).text = "é'$.a' = 1 AND '$.a' = 1 AND " ∧ (w.after b).length = 29 := by
  intro cut w b
  have pieces : w = Writer.assemble (Writer.appendOr (.ok " AND "))
      (Writer.assemble (Writer.appendOr (.ok " = ")) (Writer.appendOr (.ok "'$.a'")) (Writer.append "1")
        [.left, .symbol, .right])
      (throw (.unexpectedOperand "NoneType")) [.left, .symbol, .right] := by
    dsimp only [w, cut]
    rw [Operand.write_connective (Store.generic.isInfix none) (c := .and) rfl, Operand.write_compared rfl rfl rfl,
      Operand.write, Operand.write, Operand.write]
    rfl
  have fresh : (w.after .empty).text = "'$.a' = 1 AND " := by
    rw [pieces]
    rfl
  have fails : w.outcome .empty = .error (.unexpectedOperand "NoneType") := by
    rw [pieces]
    rfl
  have letter : (TextBuffer.empty.append "é").Reached := .append "é" .empty
  have reached : b.Reached := letter.write (Store.generic.dialect none) default cut
  obtain ⟨_, first, _⟩ := writing_only_appends (Store.generic.dialect none) default cut letter
  obtain ⟨outcome, second, count⟩ := writing_only_appends (Store.generic.dialect none) default cut reached
  have text : (w.after b).text = "é'$.a' = 1 AND '$.a' = 1 AND " := by
    rw [second, first, fresh]
    decide
  refine ⟨reached, outcome.trans fails, text, ?_⟩
  rw [count, text]
  decide

end FieldFilter
