import FieldFilter.Text.CharRuns

namespace FieldFilter

/-- The blank characters: white space, separators of every width, and the information separators
U+001C to U+001F. -/
def blankRuns : CharRuns := [
  (0x9, 0xD), (0x1C, 0x20), (0x85, 0x85), (0xA0, 0xA0), (0x1680, 0x1680), (0x2000, 0x200A),
  (0x2028, 0x2029), (0x202F, 0x202F), (0x205F, 0x205F), (0x3000, 0x3000)]

/-- Whether a character is blank. -/
def isBlank (c : Char) : Bool :=
  blankRuns.has c

/-- Whether a text has no character but blank ones; the empty text is blank. -/
def isBlankText (s : String) : Bool :=
  s.toList.all isBlank

/-- Drops the blank characters at the end. -/
def trimEnd (cs : List Char) : List Char :=
  (cs.reverse.dropWhile isBlank).reverse

end FieldFilter
