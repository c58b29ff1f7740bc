import FieldFilter.Issue
import FieldFilter.Report

namespace FieldFilter

/-- Why a filter cannot be negated or written. -/
inductive FilterError
  | malformed (tag : Tag) (rightType : String)
  | noOpposite (tag : Tag)
  | noSymbol (tag : Tag) (dialect : String) (supported : List String)
  | notNegatable (typeName : String)
  | unexpectedOperand (typeName : String)
  | unimplementedField (dialectClass : String)
  | invalid (e : ValidationError)
  | unfitName (fault : NameFault)
deriving DecidableEq

namespace FilterError

/-- What is reported on an error. Faults that checked construction finds are reported by
themselves, and so is what is wrong with a name that is no text. -/
def report? : FilterError → Option Report
  | .malformed tag rightType =>
    some (.of .malformedExpression "Non AND/OR expression must have Value right argument"
      [("operator", tag.literal), ("right_type", textLiteral rightType)])
  | .noOpposite tag =>
    some (.of .unsupportedOperator "Unknown expression operator" [("operator", tag.literal)])
  | .noSymbol tag dialect supported =>
    some (.of .unsupportedOperator
      ("Operator is not supported. Supported: " ++ String.intercalate ", " supported)
      [("operator", tag.literal), ("dialect", textLiteral dialect)])
  | .notNegatable typeName =>
    some (.of .unexpectedOperandType "Cannot negate operand" [("operand_type", textLiteral typeName)])
  | .unexpectedOperand typeName =>
    some (.of .unexpectedOperandType "Unexpected operand type" [("operand_type", textLiteral typeName)])
  | .unimplementedField dialectClass =>
    some (.of .unimplementedHook "Dialect must render field references"
      [("hook", textLiteral "convert_key_to_context"), ("dialect", textLiteral dialectClass)])
  | .invalid _ => none
  | .unfitName _ => none

/-- The name of the class that an error is reported in. -/
def className (e : FilterError) : String :=
  match e with
  | .invalid _ => "ValidationError"
  | .unfitName fault => fault.className
  | _ => (e.report?.map fun report => report.category.name).getD ""

def message (e : FilterError) : String :=
  match e with
  | .invalid issues => issues.message
  | .unfitName fault => fault.message
  | _ => (e.report?.map Report.text).getD ""

end FilterError

/-- Why a dialect is not found: what was looked up, the names there are, and the setting or argument
that named it. -/
structure UnknownDialect where
  source : String
  name : String
  available : List String
deriving DecidableEq

def UnknownDialect.report (e : UnknownDialect) : Report :=
  .of .invalidConfig ("Unknown filter dialect. Supported: " ++ String.intercalate ", " e.available)
    [("config_key", textLiteral e.source), ("value", textLiteral e.name)]

/-- Why a variable cannot be part of an environment. -/
inductive EnvironmentFault
  | nullCharacter
  | equalsSignInName
deriving DecidableEq

def EnvironmentFault.message : EnvironmentFault → String
  | .nullCharacter => "embedded null byte"
  | .equalsSignInName => "illegal environment variable name"

/-- Every way in which a request can fail. -/
inductive Failure
  | filter (e : FilterError)
  | dialect (e : UnknownDialect)
  | validation (e : ValidationError)
  | type (e : TypeFault)
  | environment (e : EnvironmentFault)
deriving DecidableEq

end FieldFilter
