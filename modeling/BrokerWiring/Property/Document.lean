import BrokerWiring.Json.Printer
import BrokerWiring.Property.Set

/-!
# Properties from a JSON document

A document is flattened: every value that is not an object and is reached through objects alone is
a leaf, and the names on its path, with dots between them, are its key. Null sets nothing, an array
sets the texts of its scalar items with commas between them.
-/

namespace BrokerWiring

namespace Property

/-- The text of a string, a boolean or a number. -/
def scalarText? : Json → Option String
  | .string s => some s
  | .bool b => some (if b then "true" else "false")
  | .number n => some n.text
  | _ => none

mutual

/-- The leaves below `path`, in the order of a walk that goes into each object member by member. -/
def leaves (path : String) : Json → List (String × String)
  | .null => []
  | .object members => memberLeaves path members
  | .array items => [(path, ",".intercalate (items.filterMap scalarText?))]
  | .string s => [(path, s)]
  | .bool b => [(path, if b then "true" else "false")]
  | .number n => [(path, n.text)]

/-- The leaves of the members of an object. -/
def memberLeaves (path : String) : List (String × Json) → List (String × String)
  | [] => []
  | (name, child) :: rest => leaves (joinKey path name) child ++ memberLeaves path rest

end

end Property

/-- The properties that a document sets, leaf after leaf. -/
def PropertySet.ofDocument (document : Json) : PropertySet :=
  PropertySet.empty.insertAll (Property.leaves "" document)

end BrokerWiring
