import FieldFilter.Scalar
import FieldFilter.TypeFault

namespace FieldFilter

/-- The types of objects that are handed over without being data of the filter language. -/
inductive ObjectType
  | decimal
  | complex
  | range
  | plain
  | key
  | value
  | expression
  | group
deriving DecidableEq

namespace ObjectType

def name : ObjectType → String
  | .decimal => "Decimal"
  | .complex => "complex"
  | .range => "range"
  | .plain => "object"
  | .key => "Key"
  | .value => "Value"
  | .expression => "Expression"
  | .group => "Group"

/-- The name with the module that the type belongs to. -/
def qualifiedName : ObjectType → String
  | .decimal => "decimal.Decimal"
  | .key => "metafilter.expression.operands.Key"
  | .value => "metafilter.expression.operands.Value"
  | .expression => "metafilter.expression.operands.Expression"
  | .group => "metafilter.expression.operands.Group"
  | type => type.name

/-- The name in messages on operators: that of a decimal comes with its module. -/
def operatorName : ObjectType → String
  | .decimal => qualifiedName .decimal
  | type => type.name

/-- Objects whose parts can be gone through; the parts of a node are pairs of a name and a content. -/
def isIterable : ObjectType → Bool
  | .decimal | .complex | .plain => false
  | .range | .key | .value | .expression | .group => true

end ObjectType

/-- An object known by its type, its literal in messages, the plain text that it is shown as, its place
among the numbers if it is one, and a serial number that tells it from others with the same literal. -/
structure Object where
  type : ObjectType
  literal : String
  text : String
  point? : Option LinePoint
  serial : Nat
deriving DecidableEq

/-- Two places are there and are one. -/
def samePoint : Option LinePoint → Option LinePoint → Bool
  | some p, some q => p == q
  | _, _ => false

/-- Objects are equal if they are the same number, or if neither type, literal nor serial number tells
them apart. How one is shown may depend on the settings. -/
def Object.same (o p : Object) : Bool :=
  samePoint o.point? p.point? || (o.type == p.type && o.literal == p.literal && o.serial == p.serial)

/-- Anything that a caller may hand over. The members of a set are in the order in which they are
shown. -/
inductive Datum
  | null
  | scalar (s : Scalar)
  | bytes (content : List UInt8)
  | byteArray (content : List UInt8)
  | list (items : List Datum)
  | tuple (items : List Datum)
  | set (items : List Datum)
  | frozenSet (items : List Datum)
  | dict (items : List (Datum × Datum))
  | object (o : Object)

def Scalar.typeName : Scalar → String
  | .text _ => "str"
  | .bool _ => "bool"
  | .int _ => "int"
  | .float _ => "float"

namespace Datum

instance : Inhabited Datum := ⟨.null⟩

def typeName : Datum → String
  | .null => "NoneType"
  | .scalar s => s.typeName
  | .bytes _ => "bytes"
  | .byteArray _ => "bytearray"
  | .list _ => "list"
  | .tuple _ => "tuple"
  | .set _ => "set"
  | .frozenSet _ => "frozenset"
  | .dict _ => "dict"
  | .object o => o.type.name

/-- The type in the form that messages on operators show. -/
def operatorName : Datum → String
  | .object o => o.type.operatorName
  | d => d.typeName

/-- The type in the form that append errors show. -/
def classText : Datum → String
  | .object o => "<class '" ++ o.type.qualifiedName ++ "'>"
  | d => "<class '" ++ d.typeName ++ "'>"

/-- Equality of scalars handed over: a number or truth value equals every other of the same value,
and a double that is not a number equals itself alone. -/
def sameScalar : Scalar → Scalar → Bool
  | .text s, .text t => s == t
  | .int m, .int n => m == n
  | .float x, .float y => x.sameNumber y
  | s, t => samePoint s.point? t.point?

mutual

/-- Equality of data. Numbers of all types are compared by value. Lists and tuples differ from each
other, both kinds of byte strings and of sets do not, and neither sets nor dictionaries have an order. -/
def same : Datum → Datum → Bool
  | .null, .null => true
  | .scalar s, .scalar t => sameScalar s t
  | .scalar s, .object o => samePoint s.point? o.point?
  | .object o, .scalar s => samePoint o.point? s.point?
  | .bytes xs, .bytes ys => xs == ys
  | .bytes xs, .byteArray ys => xs == ys
  | .byteArray xs, .bytes ys => xs == ys
  | .byteArray xs, .byteArray ys => xs == ys
  | .list xs, .list ys => sameEach xs ys
  | .tuple xs, .tuple ys => sameEach xs ys
  | .set xs, .set ys => xs.length == ys.length && within xs ys
  | .set xs, .frozenSet ys => xs.length == ys.length && within xs ys
  | .frozenSet xs, .set ys => xs.length == ys.length && within xs ys
  | .frozenSet xs, .frozenSet ys => xs.length == ys.length && within xs ys
  | .dict xs, .dict ys => xs.length == ys.length && entriesWithin xs ys
  | .object o, .object p => o.same p
  | _, _ => false

def sameEach : List Datum → List Datum → Bool
  | [], [] => true
  | x :: xs, y :: ys => same x y && sameEach xs ys
  | _, _ => false

/-- Every item of the first list equals one of the second. -/
def within : List Datum → List Datum → Bool
  | [], _ => true
  | x :: xs, ys => ys.any (same x) && within xs ys

/-- Every entry of the first list has one in the second with an equal key and an equal value. -/
def entriesWithin : List (Datum × Datum) → List (Datum × Datum) → Bool
  | [], _ => true
  | (key, value) :: rest, others =>
    others.any (fun other => same key other.1 && same value other.2) && entriesWithin rest others

end

/-- Equality of data of one type; of tuples, the items have to be of the same types one by one as well. -/
def sameTyped : Datum → Datum → Bool
  | .tuple xs, .tuple ys => xs.length == ys.length &&
      (xs.zip ys).all fun pair => pair.1.typeName == pair.2.typeName && pair.1.same pair.2
  | d, e => d.typeName == e.typeName && d.same e

mutual

/-- The type of the first part that cannot be a member of a set, if there is one. -/
def unhashable? : Datum → Option String
  | .byteArray _ => some "bytearray"
  | .list _ => some "list"
  | .set _ => some "set"
  | .dict _ => some "dict"
  | .tuple items => unhashableIn? items
  | .frozenSet items => unhashableIn? items
  | _ => none

def unhashableIn? : List Datum → Option String
  | [] => none
  | d :: rest =>
    match unhashable? d with
    | some type => some type
    | none => unhashableIn? rest

end

/-- Refuses what cannot be a member of a set or a key of a dictionary. -/
def checkHashable (d : Datum) : Except TypeFault Unit :=
  match d.unhashable? with
  | some type => .error (.unhashable type)
  | none => .ok ()

/-- What keeps a datum from being looked up in a set. It has to be fit for a member, except that a set is
looked up as a frozen one. -/
def lookUpFault? : Datum → Option TypeFault
  | .set _ => none
  | d => d.unhashable?.map .unhashable

/-- Whether a dot is in a datum: in a text as a part of it, and in any other collection as an item. An
object that can be gone through has no text in it. -/
def holdsDot : Datum → Except TypeFault Bool
  | .scalar (.text s) => .ok (s.toList.contains '.')
  | .bytes _ | .byteArray _ => .error .notBytesLike
  | .list items | .tuple items | .set items | .frozenSet items =>
    .ok (items.any (same (.scalar (.text "."))))
  | .dict entries => .ok (entries.any fun entry => same (.scalar (.text ".")) entry.1)
  | .object o => if o.type.isIterable then .ok false else .error (.notIterable o.type.operatorName)
  | d => .error (.notIterable d.typeName)

/-- Puts an item into a set; of equal items the first stays. -/
def putMember (members : List Datum) (d : Datum) : List Datum :=
  if members.any (same · d) then members else members ++ [d]

/-- The scalar that a datum is, if it is one. -/
def scalar? : Datum → Option Scalar
  | .scalar s => some s
  | _ => none

/-- The text that a datum is, if it is one. -/
def ownText? : Datum → Option String
  | .scalar (.text s) => some s
  | _ => none

/-- The whole number that a datum counts as. -/
def whole? (d : Datum) : Option Int :=
  d.scalar?.bind Scalar.whole?

/-- The order in which the members of a set are shown: whole numbers ascend if there is nothing else, and
any others stay in the order in which they were added. -/
def arranged (members : List Datum) : List Datum :=
  if members.all (·.whole?.isSome) then members.mergeSort fun d e => d.whole?.getD 0 ≤ e.whole?.getD 0
  else members

/-- The members of a set after adding the items in order. -/
def members (items : List Datum) : Except TypeFault (List Datum) := do
  items.forM checkHashable
  return arranged (items.foldl putMember [])

/-- Puts an entry into a dictionary; an equal key keeps its place and gets the new value. -/
def putEntry (key value : Datum) : List (Datum × Datum) → List (Datum × Datum)
  | [] => [(key, value)]
  | (k, v) :: rest => if same k key then (k, value) :: rest else (k, v) :: putEntry key value rest

/-- Adds an entry to a dictionary. -/
def addEntry (entries : List (Datum × Datum)) (key value : Datum) :
    Except TypeFault (List (Datum × Datum)) := do
  key.checkHashable
  return putEntry key value entries

/-- Items between brackets, separated by a comma and a space. -/
def bracketed (opening closing : String) (items : List String) : String :=
  opening ++ String.intercalate ", " items ++ closing

mutual

/-- A datum as a literal in messages. -/
def literal : Datum → String
  | .null => "None"
  | .scalar s => s.literal
  | .bytes content => bytesLiteral content
  | .byteArray content => "bytearray(" ++ bytesLiteral content ++ ")"
  | .list items => bracketed "[" "]" (literals items)
  | .tuple [item] => "(" ++ literal item ++ ",)"
  | .tuple items => bracketed "(" ")" (literals items)
  | .set [] => "set()"
  | .set items => bracketed "\x7b" "\x7d" (literals items)
  | .frozenSet [] => "frozenset()"
  | .frozenSet items => bracketed "frozenset(\x7b" "\x7d)" (literals items)
  | .dict items => bracketed "\x7b" "\x7d" (entryLiterals items)
  | .object o => o.literal

def literals : List Datum → List String
  | [] => []
  | d :: rest => literal d :: literals rest

def entryLiterals : List (Datum × Datum) → List String
  | [] => []
  | (key, value) :: rest => (literal key ++ ": " ++ literal value) :: entryLiterals rest

end

/-- A datum as plain text: a text stands for itself, an object is shown in its own way, and all else is
written as a literal. -/
def text : Datum → String
  | .scalar (.text s) => s
  | .object o => o.text
  | d => d.literal

/-- The bare text of a datum, with truth values in small letters. -/
def bareText : Datum → String
  | .scalar s => s.bareText
  | d => d.text

/-- A datum counts as true unless it is missing, false, zero or has nothing in it. -/
def isTrue : Datum → Bool
  | .null => false
  | .scalar (.text s) => !s.isEmpty
  | .scalar (.bool b) => b
  | .scalar (.int n) => n != 0
  | .scalar (.float x) => !x.isZero
  | .bytes content | .byteArray content => !content.isEmpty
  | .list items | .tuple items | .set items | .frozenSet items => !items.isEmpty
  | .dict items => !items.isEmpty
  | .object _ => true

end Datum

end FieldFilter
