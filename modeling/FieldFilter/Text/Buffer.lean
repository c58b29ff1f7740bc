import FieldFilter.Error

namespace FieldFilter

/-- A text that grows at its end, with its number of characters kept beside it. -/
structure TextBuffer where
  text : String
  length : Nat
deriving DecidableEq

namespace TextBuffer

def empty : TextBuffer :=
  ⟨"", 0⟩

def append (b : TextBuffer) (s : String) : TextBuffer :=
  ⟨b.text ++ s, b.length + s.length⟩

/-- Appends a datum, which has to be a text. -/
def appendDatum (b : TextBuffer) : Datum → Except TypeFault TextBuffer
  | .scalar (.text s) => .ok (b.append s)
  | d => .error (.notAppendable d.classText)

@[simp] theorem text_append (b : TextBuffer) (s : String) : (b.append s).text = b.text ++ s := rfl

@[simp] theorem length_append (b : TextBuffer) (s : String) : (b.append s).length = b.length + s.length :=
  rfl

/-- Appending keeps the count right. -/
theorem length_append_eq {b : TextBuffer} (counted : b.length = b.text.length) (s : String) :
    (b.append s).length = (b.append s).text.length := by
  simp [counted]

end TextBuffer

end FieldFilter
