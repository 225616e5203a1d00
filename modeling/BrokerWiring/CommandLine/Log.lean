import BrokerWiring.Text.Hex

/-!
# Log records

A record has a level, a target and a message, and fields behind it. Its line shows all of that.
Characters of the message that could steer a terminal are shown by their code; the values of fields
stand as they are.
-/

namespace BrokerWiring.Log

/-- How important a record is, most important first. -/
inductive Level where
  | error
  | warn
  | info
  | debug
  | trace
  deriving Repr, DecidableEq

/-- The word for a level. -/
def Level.word : Level → String
  | .error => "ERROR"
  | .warn => "WARN"
  | .info => "INFO"
  | .debug => "DEBUG"
  | .trace => "TRACE"

/-- How much has to be let through for a level to be seen. -/
def Level.rank : Level → Nat
  | .error => 1
  | .warn => 2
  | .info => 3
  | .debug => 4
  | .trace => 5

/-- Something to be logged. -/
structure Record where
  level : Level
  target : String
  message : String
  /-- The names of the fields with the texts of their values. -/
  fields : List (String × String) := []
  deriving Repr, DecidableEq

/-- A character of a message as a line shows it. -/
def shownChar (c : Char) : List Char :=
  let n := c.toNat
  if n = 0x1B ∨ n = 0x07 ∨ n = 0x08 ∨ n = 0x0C ∨ n = 0x7F then
    '\\' :: 'x' :: Text.hexPadded n 2
  else if 0x80 ≤ n ∧ n ≤ 0x9F then '\\' :: 'u' :: '\x7b' :: Text.hexNumber n ++ ['\x7d']
  else [c]

/-- A message as a line shows it. -/
def shown (s : String) : String := String.ofList (s.toList.flatMap shownChar)

/-- The line of a record. -/
def Record.line (record : Record) : String :=
  let fields := record.fields.map fun field => field.1 ++ "=" ++ field.2
  record.level.word ++ " " ++ record.target ++ ": " ++
    " ".intercalate (shown record.message :: fields)

end BrokerWiring.Log
