import FieldFilter.Dialect
import FieldFilter.Text.JsonString

namespace FieldFilter

/-- The columns next to the metadata, which are referred to by their bare names. -/
def baseColumns : List String :=
  ["id", "text"]

def isBaseColumn (name : String) : Bool :=
  baseColumns.contains name

/-- The name of the metadata column: the given one, unless it is missing or empty, and the configured
one otherwise. -/
def metadataColumn (given : Option String) (settings : Settings) : String :=
  match given with
  | some column => if column.isEmpty then settings.metadataColumn else column
  | none => settings.metadataColumn

/-- A text as a JSON string. -/
def jsonText (s : String) : String :=
  String.ofList (jsonString s.toList)

namespace Dialect

namespace Generic

/-- A field: a path in quotes, whatever its name is. -/
def fieldText (pathPrefix : Option String) (settings : Settings) (name : String) : String :=
  "'" ++ pathPrefix.getD settings.jsonPathPrefix ++ name ++ "'"

end Generic

/-- The reference dialect. -/
def generic (pathPrefix : Option String) : Dialect :=
  { base with
    name := "generic"
    className := "GenericDialect"
    fieldText? := some (Generic.fieldText pathPrefix)
    misnamedText := fun settings name => .ok (Generic.fieldText pathPrefix settings name.text) }

namespace PgVector

/-- The array literal of the member names on the way to a nested field. -/
def pathLiteral (name : String) : String :=
  String.ofList (arrayLiteral (splitDots name.toList))

/-- A field: a base column, a member of the metadata, or a path of members. -/
def fieldText (column : Option String) (settings : Settings) (name : String) : String :=
  let metadata := quotedIdentifier (metadataColumn column settings) "\""
  if isBaseColumn name then quotedIdentifier name "\""
  else if name.toList.contains '.' then metadata ++ " #>> " ++ stringLiteral (pathLiteral name) false
  else metadata ++ "->>" ++ stringLiteral name false

/-- What is wrong with a name that is no text. It is looked up among the base columns and searched for a
dot before it is split at the dots, or escaped if there are none. -/
def nameFault (name : Datum) : NameFault :=
  match name.lookUpFault? with
  | some fault => .type fault
  | none =>
    match name.holdsDot with
    | .error fault => .type fault
    | .ok dotted => .noAttribute name.operatorName (if dotted then "split" else "replace")

def scalarText : Scalar → String
  | .text s => stringLiteral s false
  | s => s.bareText

/-- The type that a field of the metadata is cast to before it is compared with a value: members are
extracted as text. An empty list counts as truth values. -/
def castFor? (v : Value) : Option String :=
  if v.scalars.all (·.kind == .boolean) then some "boolean"
  else if v.scalars.all (·.kind == .number) then some "numeric"
  else none

/-- The cast of the left side of an expression. Only fields of the metadata are cast, and only where
they are compared with a value that could have been checked. A name that cannot be looked up fails here
already. -/
def cast? (tag : Tag) (left right : Operand) : Option String :=
  if tag.operator?.any Operator.isLogical then none
  else
    match left, right with
    | .key name, .value v => if isBaseColumn name then none else castFor? v
    | .unfit (.key name _), .value v => if name.lookUpFault?.isSome then none else castFor? v
    | _, _ => none

def arrange (tag : Tag) (left right : Operand) : List Piece :=
  match cast? tag left right with
  | some type => [.text "(", .left, .text (")::" ++ type), .symbol, .right]
  | none => [.left, .symbol, .right]

end PgVector

/-- Conditions over a binary JSON column of a PostgreSQL table. -/
def pgVector (column : Option String) : Dialect :=
  { base with
    name := "pgvector"
    className := "PgVectorDialect"
    listOpen := "("
    listClose := ")"
    listSeparator := ", "
    fieldText? := some (PgVector.fieldText column)
    misnamedText := fun _ name => .error (PgVector.nameFault name)
    scalarText := PgVector.scalarText
    arrange := PgVector.arrange }

namespace Milvus

def symbol? : Operator → Option String
  | .and => some " && "
  | .or => some " || "
  | .eq => some " == "
  | .ne => some " != "
  | .lt => some " < "
  | .lte => some " <= "
  | .gt => some " > "
  | .gte => some " >= "
  | .isIn => some " in "
  | .notIn => some " not in "
  | .not => none

/-- A field: a base column, or the metadata with its member names in brackets. -/
def fieldText (column : Option String) (settings : Settings) (name : String) : String :=
  if isBaseColumn name then name
  else metadataColumn column settings ++
    String.join ((pathSegments name).map fun part => "[" ++ jsonText part ++ "]")

/-- What is wrong with a name that is no text. It is looked up among the base columns before it is split
at its dots, which bytes are not without a separator of their kind. -/
def nameFault (name : Datum) : NameFault :=
  match name.lookUpFault? with
  | some fault => .type fault
  | none =>
    match name with
    | .bytes _ | .byteArray _ => .type .notBytesLike
    | _ => .noAttribute name.operatorName "split"

def scalarText : Scalar → String
  | .text s => jsonText s
  | s => s.bareText

end Milvus

/-- Boolean expressions over a JSON field of a Milvus collection. -/
def milvus (column : Option String) : Dialect :=
  { base with
    name := "milvus"
    className := "MilvusDialect"
    symbol? := Milvus.symbol?
    trueText := "true"
    falseText := "false"
    listSeparator := ", "
    fieldText? := some (Milvus.fieldText column)
    misnamedText := fun _ name => .error (Milvus.nameFault name)
    scalarText := Milvus.scalarText }

namespace MariaDb

/-- The value at a path of the metadata. -/
def memberText (column : Option String) (settings : Settings) (name : String) : String :=
  "JSON_VALUE(" ++ quotedIdentifier (metadataColumn column settings) "\x60" ++ ", " ++
    stringLiteral ("$." ++ name) true ++ ")"

/-- A field: a base column, or a member of the metadata. -/
def fieldText (column : Option String) (settings : Settings) (name : String) : String :=
  if isBaseColumn name then quotedIdentifier name "\x60" else memberText column settings name

/-- A field whose name is no text: a member of the metadata, if the name can be looked up among the base
columns. -/
def misnamedText (column : Option String) (settings : Settings) (name : Datum) : Except NameFault String :=
  match name.lookUpFault? with
  | some fault => .error (.type fault)
  | none => .ok (memberText column settings name.text)

/-- Members are extracted as text, so truth values are compared by their JSON spelling. -/
def scalarText : Scalar → String
  | .bool b => if b then "'true'" else "'false'"
  | .text s => stringLiteral s true
  | s => s.bareText

end MariaDb

/-- Conditions over a JSON column of a MariaDB table. -/
def mariaDb (column : Option String) : Dialect :=
  { base with
    name := "mariadb"
    className := "MariaDBDialect"
    listOpen := "("
    listClose := ")"
    listSeparator := ", "
    fieldText? := some (MariaDb.fieldText column)
    misnamedText := MariaDb.misnamedText column
    scalarText := MariaDb.scalarText }

end Dialect

/-- The dialects that are always there. -/
inductive Store
  | generic
  | pgVector
  | milvus
  | mariaDb
deriving DecidableEq

namespace Store

def all : List Store :=
  [.generic, .pgVector, .milvus, .mariaDb]

def name : Store → String
  | .generic => "generic"
  | .pgVector => "pgvector"
  | .milvus => "milvus"
  | .mariaDb => "mariadb"

def ofName? (name : String) : Option Store :=
  all.find? (·.name == name)

/-- The dialect of a store. What is given is the path in front of fields for the reference dialect,
and the metadata column for the others. -/
def dialect (store : Store) (given : Option String) : Dialect :=
  match store with
  | .generic => .generic given
  | .pgVector => .pgVector given
  | .milvus => .milvus given
  | .mariaDb => .mariaDb given

/-- Why a store does not refer to a field whose name is no text, if it does not. -/
def nameFault? : Store → Datum → Option NameFault
  | .generic, _ => none
  | .pgVector, name => some (Dialect.PgVector.nameFault name)
  | .milvus, name => some (Dialect.Milvus.nameFault name)
  | .mariaDb, name => name.lookUpFault?.map .type

theorem name_dialect (store : Store) (given : Option String) : (store.dialect given).name = store.name := by
  cases store <;> rfl

end Store

end FieldFilter
