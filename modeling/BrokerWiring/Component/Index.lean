import Mathlib.Data.List.Basic
import BrokerWiring.Component.Registry

/-!
# Registries with an index

A registry as it is kept for look-ups by name: the entries stand in an array, and an index leads
from each name to its place there. Whether a name is taken is asked of the index alone; component
and origin of a name are read where the index leads. Nothing in the type keeps the two in step, so
a name may also lead to a place outside of the array, where there is nothing to read.
-/

namespace BrokerWiring

/-- Entries, and the place of each name among them. -/
structure IndexedRegistry where
  entries : Array Entry := #[]
  index : Std.HashMap String Nat := {}

namespace IndexedRegistry

/-- Where a name leads. -/
inductive Slot where
  /-- Nowhere: the index does not know the name. -/
  | vacant
  /-- To a place outside of the array. -/
  | outside (place : Nat)
  | held (entry : Entry)

/-- Goes through the index to the entry. -/
def slot (registry : IndexedRegistry) (name : String) : Slot :=
  match registry.index[name]? with
  | none => .vacant
  | some place =>
    match registry.entries[place]? with
    | none => .outside place
    | some entry => .held entry

/-- Whether a name is taken. -/
def contains (registry : IndexedRegistry) (name : String) : Bool := registry.index.contains name

/-- The component of a name, unless the name leads outside. -/
def get? (registry : IndexedRegistry) (name : String) : Option (Except ConfigError Component) :=
  match registry.slot name with
  | .vacant => some (.error (.noSuchComponent s!"name '{name}'"))
  | .outside _ => none
  | .held entry => some (.ok entry.component)

/-- Who supplied the component of a name, unless the name leads outside. -/
def origin? (registry : IndexedRegistry) (name : String) : Option (Option Origin) :=
  match registry.slot name with
  | .vacant => some none
  | .outside _ => none
  | .held entry => some (some entry.origin)

/-- Puts an entry behind the others and notes its place; a name that is taken is refused. -/
def insert (registry : IndexedRegistry) (entry : Entry) :
    Except ConfigError Unit × IndexedRegistry :=
  if registry.contains entry.name then (.error (.duplicateName entry.name), registry)
  else
    (.ok (),
      { entries := registry.entries.push entry
        index := registry.index.insert entry.name registry.entries.size })

/-- The registry behind insertions, each of which may fail. -/
def insertEach (registry : IndexedRegistry) (entries : List Entry) : IndexedRegistry :=
  entries.foldl (fun registry entry => (registry.insert entry).2) registry

end IndexedRegistry

end BrokerWiring
