/-!
# Faults of JSON text

What is wrong with a text and where. The place is the line and the column of the last byte that was
read or looked at; columns count bytes and a line feed starts the next line at column zero.
-/

namespace BrokerWiring.Json

/-- What is wrong with a JSON text. -/
inductive Flaw where
  | endInList
  | endInObject
  | endInString
  | endInValue
  | colonExpected
  | listCommaExpected
  | objectCommaExpected
  | identExpected
  | valueExpected
  | badEscape
  | badNumber
  | numberTooLarge
  | badCodePoint
  | controlInString
  | keyNotString
  | loneSurrogate
  | endOfHexEscape
  | trailingComma
  | trailingCharacters
  | nestedTooDeep
  deriving Repr, DecidableEq

/-- The wording of a flaw. -/
def Flaw.message : Flaw → String
  | .endInList => "EOF while parsing a list"
  | .endInObject => "EOF while parsing an object"
  | .endInString => "EOF while parsing a string"
  | .endInValue => "EOF while parsing a value"
  | .colonExpected => "expected `:`"
  | .listCommaExpected => "expected `,` or `]`"
  | .objectCommaExpected => "expected `,` or `\x7d`"
  | .identExpected => "expected ident"
  | .valueExpected => "expected value"
  | .badEscape => "invalid escape"
  | .badNumber => "invalid number"
  | .numberTooLarge => "number out of range"
  | .badCodePoint => "invalid unicode code point"
  | .controlInString => "control character (\\u0000-\\u001F) found while parsing a string"
  | .keyNotString => "key must be a string"
  | .loneSurrogate => "lone leading surrogate in hex escape"
  | .endOfHexEscape => "unexpected end of hex escape"
  | .trailingComma => "trailing comma"
  | .trailingCharacters => "trailing characters"
  | .nestedTooDeep => "recursion limit exceeded"

/-- A flaw with its place. -/
structure Fault where
  flaw : Flaw
  line : Nat
  column : Nat
  deriving Repr, DecidableEq

/-- The wording of a fault. -/
def Fault.message (fault : Fault) : String :=
  s!"{fault.flaw.message} at line {fault.line} column {fault.column}"

/-- The fault behind the first `seen` bytes of a text. -/
def Fault.behind (flaw : Flaw) (text : List UInt8) (seen : Nat) : Fault :=
  let before := text.take seen
  { flaw
    line := before.count 10 + 1
    column := (before.reverse.takeWhile (· != 10)).length }

end BrokerWiring.Json
