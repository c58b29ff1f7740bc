import FieldFilter.Operand

namespace FieldFilter

/-- The kinds of nodes. -/
inductive NodeKind
  | key
  | value
  | expression
  | group
deriving DecidableEq

def NodeKind.name : NodeKind → String
  | .key => "Key"
  | .value => "Value"
  | .expression => "Expression"
  | .group => "Group"

/-- One fault that checked construction finds. -/
inductive Issue
  | notText (field : String)
  | notUtf8 (field : String)
  | blankKey
  | unfitValue (fault : ValueFault)
  | unknownOperator
  | notNode (field : String) (kind : NodeKind)
  | notExpression
  | frozen (field : String)
deriving DecidableEq

namespace Issue

/-- A choice of the quoted words, the last after "or". -/
def alternatives : List String → String
  | [] => ""
  | [word] => "'" ++ word ++ "'"
  | [word, last] => "'" ++ word ++ "' or '" ++ last ++ "'"
  | word :: rest => "'" ++ word ++ "', " ++ alternatives rest

/-- Where the fault is, what it is, and the sort of fault in brackets. -/
def message : Issue → String
  | .notText field => field ++ ": Input should be a valid string [string_type]"
  | .notUtf8 field =>
    field ++ ": Input should be a valid string, unable to parse raw data as a unicode string [string_unicode]"
  | .blankKey => "key: Value error, Key cannot be empty [value_error]"
  | .unfitValue fault => "value: Value error, " ++ fault.message ++ " [value_error]"
  | .unknownOperator =>
    "operator: Input should be " ++ alternatives (Operator.all.map Operator.name) ++ " [enum]"
  | .notNode field kind =>
    field ++ "." ++ kind.name ++ ": Input should be a valid dictionary or instance of " ++ kind.name ++
      " [model_type]"
  | .notExpression => "content: Input should be a valid dictionary or instance of Expression [model_type]"
  | .frozen field => field ++ ": Instance is frozen [frozen_instance]"

end Issue

/-- All faults of one construction, in the order of the fields. -/
structure ValidationError where
  issues : List Issue
deriving DecidableEq

def ValidationError.message (e : ValidationError) : String :=
  String.intercalate "; " (e.issues.map Issue.message)

end FieldFilter
