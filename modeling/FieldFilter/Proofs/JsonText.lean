import FieldFilter.Text.JsonString

namespace FieldFilter

/-- A character is a code point that is no surrogate. -/
theorem codePoint_valid (c : Char) : c.toNat < 0xD800 ∨ 0xDFFF < c.toNat ∧ c.toNat < 0x110000 := by
  have valid := c.valid
  simp only [UInt32.isValidChar, Nat.isValidChar] at valid
  exact valid

theorem unicodeEscape_low {c : Char} (low : c.toNat < 0x10000) : unicodeEscape c = unitEscape c.toNat := by
  rw [unicodeEscape, if_pos low]

theorem unicodeEscape_high {c : Char} (high : ¬ c.toNat < 0x10000) :
    unicodeEscape c = unitEscape (0xD800 + (c.toNat - 0x10000) / 0x400) ++
      unitEscape (0xDC00 + (c.toNat - 0x10000) % 0x400) := by
  rw [unicodeEscape, if_neg high]

/-- The character that a backslash and one more character stand for. -/
def unescaped (x : Char) : Char :=
  if x = 'n' then '\n'
  else if x = 'r' then '\r'
  else if x = 't' then '\t'
  else if x = 'b' then '\x08'
  else if x = 'f' then '\x0c'
  else x

/-- The characters that a backslash may stand in front of, but for the letter of a code point. -/
def shortEscapes : List Char :=
  ['"', '\\', '/', 'b', 'f', 'n', 'r', 't']

/-- A character in a JSON string stands for itself, follows a backslash, or is given by its code point. -/
theorem jsonChar_cases (c : Char) :
    jsonChar c = [c] ∧ c ≠ '\\' ∧ c ≠ '"' ∧ ' ' ≤ c ∨
      (∃ x, jsonChar c = ['\\', x] ∧ x ∈ shortEscapes ∧ c = unescaped x) ∨ jsonChar c = unicodeEscape c := by
  unfold jsonChar
  by_cases quoted : c = '"' ∨ c = '\\'
  · rw [if_pos quoted]
    refine Or.inr (Or.inl ⟨c, rfl, ?_, ?_⟩) <;> rcases quoted with rfl | rfl <;> decide
  rw [if_neg quoted]
  by_cases newline : c = '\n'
  · rw [if_pos newline]
    exact Or.inr (Or.inl ⟨'n', rfl, by decide, newline⟩)
  rw [if_neg newline]
  by_cases carriage : c = '\r'
  · rw [if_pos carriage]
    exact Or.inr (Or.inl ⟨'r', rfl, by decide, carriage⟩)
  rw [if_neg carriage]
  by_cases tab : c = '\t'
  · rw [if_pos tab]
    exact Or.inr (Or.inl ⟨'t', rfl, by decide, tab⟩)
  rw [if_neg tab]
  by_cases backspace : c = '\x08'
  · rw [if_pos backspace]
    exact Or.inr (Or.inl ⟨'b', rfl, by decide, backspace⟩)
  rw [if_neg backspace]
  by_cases formFeed : c = '\x0c'
  · rw [if_pos formFeed]
    exact Or.inr (Or.inl ⟨'f', rfl, by decide, formFeed⟩)
  rw [if_neg formFeed]
  by_cases printable : ' ' ≤ c ∧ c ≤ '~'
  · rw [if_pos printable]
    exact Or.inl ⟨rfl, fun same => quoted (Or.inr same), fun same => quoted (Or.inl same), printable.1⟩
  · rw [if_neg printable]
    exact Or.inr (Or.inr rfl)

end FieldFilter
