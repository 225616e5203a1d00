import BrokerWiring.Text.Quoted

/-!
# Records in diagnostics

The form in which diagnostics show a record: its name and, in braces, its fields. A record that
keeps some of its fields to itself says so with two dots at the end.
-/

namespace BrokerWiring.Text

/-- The fields of a record with their names. -/
def fieldTexts (fields : List (String × String)) : List String :=
  fields.map fun field => field.1 ++ ": " ++ field.2

/-- A record that shows all its fields. -/
def record (name : String) (fields : List (String × String)) : String :=
  name ++ " \x7b " ++ ", ".intercalate (fieldTexts fields) ++ " \x7d"

/-- A record that keeps some fields to itself. -/
def guardedRecord (name : String) (fields : List (String × String)) : String :=
  name ++ " \x7b " ++ ", ".intercalate (fieldTexts fields ++ [".."]) ++ " \x7d"

/-- A flag in diagnostics. -/
def flag (b : Bool) : String := if b then "true" else "false"

end BrokerWiring.Text
