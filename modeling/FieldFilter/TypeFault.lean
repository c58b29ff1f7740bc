namespace FieldFilter

/-- An operation on operands or data of the wrong type, or with arguments too few or too many. -/
inductive TypeFault
  | binary (symbol left right : String)
  | unary (symbol operand : String)
  | unhashable (typeName : String)
  | notAppendable (classText : String)
  | repeatedArgument (callee argument : String)
  | missingFormatArgument
  | unusedFormatArgument
  | notIterable (typeName : String)
  | notBytesLike
deriving DecidableEq

def TypeFault.message : TypeFault → String
  | .binary symbol left right =>
    "unsupported operand type(s) for " ++ symbol ++ ": '" ++ left ++ "' and '" ++ right ++ "'"
  | .unary symbol operand => "bad operand type for unary " ++ symbol ++ ": '" ++ operand ++ "'"
  | .unhashable typeName => "unhashable type: '" ++ typeName ++ "'"
  | .notAppendable classText => "Can only append strings, got " ++ classText
  | .repeatedArgument callee argument =>
    callee ++ "() got multiple values for argument '" ++ argument ++ "'"
  | .missingFormatArgument => "not enough arguments for format string"
  | .unusedFormatArgument => "not all arguments converted during string formatting"
  | .notIterable typeName => "argument of type '" ++ typeName ++ "' is not iterable"
  | .notBytesLike => "a bytes-like object is required, not 'str'"

/-- Why a name that is no text cannot be referred to: an operation that is not for its type, or one that
its type does not have. -/
inductive NameFault
  | type (fault : TypeFault)
  | noAttribute (typeName name : String)
deriving DecidableEq

namespace NameFault

/-- The name of the class that it is reported in, which is none of this library's. -/
def className : NameFault → String
  | .type _ => "TypeError"
  | .noAttribute .. => "AttributeError"

def message : NameFault → String
  | .type fault => fault.message
  | .noAttribute typeName name => "'" ++ typeName ++ "' object has no attribute '" ++ name ++ "'"

end NameFault

end FieldFilter
