import FieldFilter.Text.Hex
import FieldFilter.Text.Printable

namespace FieldFilter

/-- The quotes around a literal are double only where that saves an escape. -/
def quoteMark (hasSingle hasDouble : Bool) : Char :=
  if hasSingle && !hasDouble then '"' else '\''

/-- The escapes that texts and byte strings share. -/
def commonEscape? (mark c : Char) : Option (List Char) :=
  if c = '\\' ∨ c = mark then some ['\\', c]
  else if c = '\n' then some ['\\', 'n']
  else if c = '\r' then some ['\\', 'r']
  else if c = '\t' then some ['\\', 't']
  else none

/-- The shortest of the three numbered escapes that a code point fits. -/
def numberedEscape (n : Nat) : List Char :=
  if n < 0x100 then '\\' :: 'x' :: hexDigits 2 n
  else if n < 0x10000 then '\\' :: 'u' :: hexDigits 4 n
  else '\\' :: 'U' :: hexDigits 8 n

/-- One character of a text literal. -/
def literalChar (mark c : Char) : List Char :=
  match commonEscape? mark c with
  | some escape => escape
  | none => if isPrintable c then [c] else numberedEscape c.toNat

/-- A text as a literal, so that messages show it unmistakably. -/
def textLiteral (s : String) : String :=
  let cs := s.toList
  let mark := quoteMark (cs.contains '\'') (cs.contains '"')
  String.ofList (mark :: cs.flatMap (literalChar mark) ++ [mark])

/-- One byte of a byte literal: bytes outside printable ASCII are numbered. -/
def literalByte (mark : Char) (b : UInt8) : List Char :=
  let c := Char.ofNat b.toNat
  match commonEscape? mark c with
  | some escape => escape
  | none => if 0x20 ≤ b.toNat ∧ b.toNat < 0x7F then [c] else numberedEscape b.toNat

/-- A byte string as a literal. -/
def bytesLiteral (bytes : List UInt8) : String :=
  let mark := quoteMark (bytes.contains 39) (bytes.contains 34)
  String.ofList ('b' :: mark :: bytes.flatMap (literalByte mark) ++ [mark])

end FieldFilter
