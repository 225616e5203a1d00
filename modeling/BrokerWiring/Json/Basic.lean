import BrokerWiring.Keyed
import BrokerWiring.Number.Binary64

/-!
# JSON values

A `Json` tree keeps the members of an object in a list. Two readings of that list are in use. As
written, it holds the members in the order of the text, duplicates included; that is what a reader
sees. As a value, it is `Ordered`: strictly increasing keys, each one once. `Json.value` turns the
first into the second, and the last member of a name wins.
-/

namespace BrokerWiring

namespace Json

/-- A number of a JSON text: an integer of 64 bits as long as it fits, else a floating-point
number. The one number that an integer cannot keep is minus zero. -/
inductive Number where
  /-- A natural number below `2^64`. -/
  | natural (n : Nat)
  /-- The number `-n` for `0 < n ≤ 2^63`. -/
  | negative (n : Nat)
  | real (x : BrokerWiring.Number.Binary64)
  deriving Repr, DecidableEq

end Json

/-- A JSON tree. -/
inductive Json where
  | null
  | bool (b : Bool)
  | number (n : Json.Number)
  | string (s : String)
  | array (items : List Json)
  | object (members : List (String × Json))
  deriving Repr, Inhabited

namespace Json

/-! ## The value of a tree -/

mutual

/-- The tree as a value: in every object the names are in order and the last member of a name is
the one that counts. -/
def value : Json → Json
  | .null => .null
  | .bool b => .bool b
  | .number n => .number n
  | .string s => .string s
  | .array items => .array (valueItems items)
  | .object members => .object (Keyed.insertAll (valueMembers members) [])

/-- The items as values. -/
def valueItems : List Json → List Json
  | [] => []
  | item :: rest => item.value :: valueItems rest

/-- The members as values, still in the order of the text. -/
def valueMembers : List (String × Json) → List (String × Json)
  | [] => []
  | (name, item) :: rest => (name, item.value) :: valueMembers rest

end

/-! ## Depth -/

mutual

/-- How deep arrays and objects nest: zero for a scalar. -/
def depth : Json → Nat
  | .array items => depthItems items + 1
  | .object members => depthMembers members + 1
  | _ => 0

/-- The greatest depth among the items. -/
def depthItems : List Json → Nat
  | [] => 0
  | item :: rest => max item.depth (depthItems rest)

/-- The greatest depth among the members. -/
def depthMembers : List (String × Json) → Nat
  | [] => 0
  | (_, item) :: rest => max item.depth (depthMembers rest)

end

/-! ## Looking into a value -/

/-- The member of an object; none for any other tree and for an absent name. -/
def member? (name : String) : Json → Option Json
  | .object members => Keyed.lookup name members
  | _ => none

end Json

end BrokerWiring
