import FieldFilter.Datum

namespace FieldFilter

/-- The classes of errors that a filter can raise. -/
inductive ErrorClass
  | general
  | filterExpression
  | malformedExpression
  | unsupportedOperator
  | unexpectedOperandType
  | unimplementedHook
  | configuration
  | invalidConfig
deriving DecidableEq

namespace ErrorClass

/-- All classes, the more general ones first. -/
def all : List ErrorClass :=
  [.general, .filterExpression, .malformedExpression, .unsupportedOperator, .unexpectedOperandType,
    .unimplementedHook, .configuration, .invalidConfig]

def name : ErrorClass → String
  | .general => "MetaFilterError"
  | .filterExpression => "FilterExpressionError"
  | .malformedExpression => "MalformedExpressionError"
  | .unsupportedOperator => "UnsupportedOperatorError"
  | .unexpectedOperandType => "UnexpectedOperandTypeError"
  | .unimplementedHook => "UnimplementedHookError"
  | .configuration => "ConfigurationError"
  | .invalidConfig => "InvalidConfigError"

/-- The class of a name. -/
def ofName? (name : String) : Option ErrorClass :=
  all.find? (·.name == name)

/-- The class that a class refines. -/
def parent? : ErrorClass → Option ErrorClass
  | .general => none
  | .filterExpression => some .general
  | .malformedExpression => some .filterExpression
  | .unsupportedOperator => some .filterExpression
  | .unexpectedOperandType => some .filterExpression
  | .unimplementedHook => some .filterExpression
  | .configuration => some .general
  | .invalidConfig => some .configuration

/-- The names of the general classes that come after a class and those it refines. A missing hook
also counts as something that is not implemented. -/
def outerNames : ErrorClass → List String
  | .unimplementedHook => ["NotImplementedError", "RuntimeError", "Exception"]
  | _ => ["Exception"]

/-- The names of a class and of all classes that it refines, nearest first. -/
def lineage (c : ErrorClass) : List String :=
  let parents := match c.parent? with
    | none => []
    | some p => p :: p.parent?.toList
  (c :: parents).map name ++ c.outerNames

end ErrorClass

/-- An error as it is reported: a message, which is a text as a rule, and details that each have a name
and a literal. -/
structure Report where
  category : ErrorClass
  message : Datum
  details : List (String × String)

namespace Report

/-- A report with a text for its message. -/
def of (category : ErrorClass) (message : String) (details : List (String × String)) : Report :=
  ⟨category, .scalar (.text message), details⟩

/-- Puts a detail into a list; a name that is there already keeps its place and gets the new value. -/
def putDetail (name : String) (value : Datum) : List (String × Datum) → List (String × Datum)
  | [] => [(name, value)]
  | (n, v) :: rest => if n = name then (n, value) :: rest else (n, v) :: putDetail name value rest

/-- The details, each name once. -/
def collect (details : List (String × Datum)) : List (String × Datum) :=
  details.foldl (fun done detail => putDetail detail.1 detail.2 done) []

/-- The names that no detail may have: that of the report itself, and that of the message where one is
given already. -/
def takenNames (message : Option Datum) : List String :=
  if message.isSome then ["self", "message"] else ["self"]

/-- A report from what a caller gives. Where no message is given, the detail named "message" is the
message, and without that the message is empty. -/
def ofArguments (category : ErrorClass) (message : Option Datum) (details : List (String × Datum)) :
    Except TypeFault Report :=
  let named := collect details
  match named.find? fun detail => (takenNames message).contains detail.1 with
  | some (name, _) => .error (.repeatedArgument (ErrorClass.general.name ++ ".__init__") name)
  | none =>
    let chosen := message <|> named.lookup "message"
    let others := named.filter fun detail => detail.1 != "message"
    .ok ⟨category, chosen.getD (.scalar (.text "")), others.map fun detail => (detail.1, detail.2.literal)⟩

/-- The message with the details in parentheses after it. A message that counts as false is left out
if there are details. -/
def text (r : Report) : String :=
  let details := String.intercalate ", " (r.details.map fun detail => detail.1 ++ "=" ++ detail.2)
  if r.details.isEmpty then r.message.text
  else if r.message.isTrue then r.message.text ++ " (" ++ details ++ ")"
  else details

/-- A report as a literal. -/
def literal (r : Report) : String :=
  let details := r.details.map fun detail => textLiteral detail.1 ++ ": " ++ detail.2
  r.category.name ++ "(message=" ++ r.message.literal ++ ", details=" ++
    Datum.bracketed "\x7b" "\x7d" details ++ ")"

end Report

end FieldFilter
