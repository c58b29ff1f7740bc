import FieldFilter.Settings
import FieldFilter.Text.Quoted

namespace FieldFilter

/-- The parts of a written expression, in the order of writing. -/
inductive Piece
  | text (s : String)
  | symbol
  | left
  | right
deriving DecidableEq

/-- How a query language spells filters. `fieldText?` is missing in a language that does not say how
it refers to fields. Otherwise `misnamedText` is what becomes of a field whose name is no text. -/
structure Dialect where
  name : String
  className : String
  symbol? : Operator → Option String
  trueText : String
  falseText : String
  groupOpen : String
  groupClose : String
  listOpen : String
  listClose : String
  listSeparator : String
  fieldText? : Option (Settings → String → String)
  misnamedText : Settings → Datum → Except NameFault String
  scalarText : Scalar → String
  arrange : Tag → Operand → Operand → List Piece

namespace Dialect

/-- The symbol between the sides. -/
def infixed (_ : Tag) (_ _ : Operand) : List Piece :=
  [.left, .symbol, .right]

/-- The symbol as the name of a function of both sides. -/
def asCall (_ : Tag) (_ _ : Operand) : List Piece :=
  [.symbol, .text "(", .left, .text ", ", .right, .text ")"]

/-- The symbols that look like SQL. A negation has none. -/
def sqlSymbol? : Operator → Option String
  | .and => some " AND "
  | .or => some " OR "
  | .eq => some " = "
  | .ne => some " != "
  | .lt => some " < "
  | .lte => some " <= "
  | .gt => some " > "
  | .gte => some " >= "
  | .isIn => some " IN "
  | .notIn => some " NOT IN "
  | .not => none

/-- Texts in single quotes, just as they are, and other scalars bare. -/
def plainScalar : Scalar → String
  | .text s => "'" ++ s ++ "'"
  | s => s.bareText

/-- What every dialect starts from: it looks like SQL, and does not say how it refers to fields. -/
def base : Dialect where
  name := "base"
  className := "FilterDialect"
  symbol? := sqlSymbol?
  trueText := "TRUE"
  falseText := "FALSE"
  groupOpen := "("
  groupClose := ")"
  listOpen := "["
  listClose := "]"
  listSeparator := ","
  fieldText? := none
  misnamedText := fun _ name => .ok name.text
  scalarText := plainScalar
  arrange := infixed

/-- The operators in the order of their names. -/
def operatorsByName : List Operator :=
  [.and, .eq, .gt, .gte, .isIn, .lt, .lte, .ne, .notIn, .not, .or]

/-- The names of the operators that have a symbol, in order. -/
def supportedNames (d : Dialect) : List String :=
  (operatorsByName.filter fun op => (d.symbol? op).isSome).map Operator.name

/-- The symbol of a tag. -/
def symbolText (d : Dialect) (tag : Tag) : Except FilterError String :=
  match tag.operator?.bind d.symbol? with
  | some s => .ok s
  | none => .error (.noSymbol tag d.name d.supportedNames)

/-- The reference to a field. -/
def fieldText (d : Dialect) (settings : Settings) (name : String) : Except FilterError String :=
  match d.fieldText? with
  | some text => .ok (text settings name)
  | none => .error (.unimplementedField d.className)

/-- The text of membership in the empty list: nothing is in it, and everything is not. -/
def emptyMembershipText (d : Dialect) (tag : Tag) : String :=
  if tag.operator? = some .notIn then d.trueText else d.falseText

/-- A scalar, or a list of scalars between the list's brackets. -/
def valueText (d : Dialect) : Value → String
  | .scalar s => d.scalarText s
  | .list l => d.listOpen ++ String.intercalate d.listSeparator (l.items.map d.scalarText) ++ d.listClose

/-- A datum handed over as a scalar; one that is none is written plainly. -/
def datumText (d : Dialect) (x : Datum) : String :=
  match x.scalar? with
  | some s => d.scalarText s
  | none => x.text

/-- The contents of a value: a tuple is a list, and anything else stands alone. -/
def contentText (d : Dialect) : Datum → String
  | .tuple items => d.listOpen ++ String.intercalate d.listSeparator (items.map d.datumText) ++ d.listClose
  | x => d.datumText x

/-- A field or a value that was put together unchecked. -/
def unfitText (d : Dialect) (settings : Settings) : Unfit → Except FilterError String
  | .key name _ =>
    match d.fieldText? with
    | some _ => (d.misnamedText settings name).mapError .unfitName
    | none => .error (.unimplementedField d.className)
  | .value content _ => .ok (d.contentText content)

/-- Changes to the base dialect. What is left out stays as it is; a field is written between the two
texts of `field`. -/
structure Variation where
  className : String
  name : Option String
  symbols : Option (List (Operator × String))
  trueText : Option String
  falseText : Option String
  group : Option (String × String)
  field : Option (String × String)
  call : Bool

/-- The base dialect with the changes made. -/
def ofVariation (v : Variation) : Dialect :=
  { base with
    className := v.className
    name := v.name.getD base.name
    symbol? := (v.symbols.map fun table op => table.lookup op).getD base.symbol?
    trueText := v.trueText.getD base.trueText
    falseText := v.falseText.getD base.falseText
    groupOpen := (v.group.map Prod.fst).getD base.groupOpen
    groupClose := (v.group.map Prod.snd).getD base.groupClose
    fieldText? := v.field.map fun around _ name => around.1 ++ name ++ around.2
    misnamedText := fun _ name =>
      let around := v.field.getD ("", "")
      .ok (around.1 ++ name.text ++ around.2)
    arrange := if v.call then asCall else infixed }

end Dialect

end FieldFilter
