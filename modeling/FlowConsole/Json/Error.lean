/-!
What is wrong with a text that is not JSON, and where.
-/
namespace FlowConsole.Json

inductive Problem
  | eofValue
  | eofList
  | eofObject
  | eofString
  | expectedValue
  | expectedIdent
  | expectedColon
  | expectedListEnd
  | expectedObjectEnd
  | keyNotString
  | trailingComma
  | trailingCharacters
  | invalidNumber
  | numberOutOfRange
  | invalidEscape
  | hexEscapeEnd
  | loneSurrogate
  | controlCharacter
  | recursionLimit
deriving DecidableEq, Repr, Inhabited

def Problem.message : Problem → String
  | .eofValue => "EOF while parsing a value"
  | .eofList => "EOF while parsing a list"
  | .eofObject => "EOF while parsing an object"
  | .eofString => "EOF while parsing a string"
  | .expectedValue => "expected value"
  | .expectedIdent => "expected ident"
  | .expectedColon => "expected `:`"
  | .expectedListEnd => "expected `,` or `]`"
  | .expectedObjectEnd => "expected `,` or `\x7d`"
  | .keyNotString => "key must be a string"
  | .trailingComma => "trailing comma"
  | .trailingCharacters => "trailing characters"
  | .invalidNumber => "invalid number"
  | .numberOutOfRange => "number out of range"
  | .invalidEscape => "invalid escape"
  | .hexEscapeEnd => "unexpected end of hex escape"
  | .loneSurrogate => "lone leading surrogate in hex escape"
  | .controlCharacter => "control character (\\u0000-\\u001F) found while parsing a string"
  | .recursionLimit => "recursion limit exceeded"

/-- A problem with the place where it was noticed: the line from one, the column as the number of
bytes since the line began. -/
structure Error where
  problem : Problem
  line : Nat
  column : Nat
deriving DecidableEq, Repr, Inhabited

def Error.message (e : Error) : String :=
  s!"{e.problem.message} at line {e.line} column {e.column}"

end FlowConsole.Json
