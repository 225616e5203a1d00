import BrokerWiring.Keyed
import BrokerWiring.Error
import BrokerWiring.Property.Key
import BrokerWiring.Property.Entry

/-!
# Property sets

A property set answers to every spelling of a key. It keeps its properties by canonical key, in
increasing order, each with the spelling of whoever set it last; a later insertion replaces value
and spelling together. `merge` lays one set over another and `subset` selects what lies below a
key.
-/

namespace BrokerWiring

/-- A property as it was set: the key as it was spelled, and the value. -/
structure Property where
  key : String
  value : String
  deriving Repr, DecidableEq

/-- Properties by canonical key. -/
structure PropertySet where
  entries : List (String × Property)
  ordered : Keyed.Ordered entries
  deriving DecidableEq

namespace PropertySet

open Property (canonicalKey)

/-- The set without properties. -/
def empty : PropertySet := ⟨[], Keyed.ordered_nil⟩

/-! ## Look-up -/

/-- The property that a key addresses. -/
def find? (set : PropertySet) (key : String) : Option Property :=
  Keyed.lookup (canonicalKey key) set.entries

/-- The value at a key. -/
def get? (set : PropertySet) (key : String) : Option String := (set.find? key).map (·.value)

/-- The spelling under which a key was set last. -/
def sourceKey? (set : PropertySet) (key : String) : Option String := (set.find? key).map (·.key)

/-- Whether a key is set. -/
def contains (set : PropertySet) (key : String) : Bool := (set.find? key).isSome

/-- The number of properties. -/
def size (set : PropertySet) : Nat := set.entries.length

/-- Whether there are no properties. -/
def isEmpty (set : PropertySet) : Bool := set.entries.isEmpty

/-- The properties in the order of their canonical keys. -/
def toList (set : PropertySet) : List Property := set.entries.map (·.2)

/-! ## Change -/

/-- Sets a property. -/
def insert (set : PropertySet) (key value : String) : PropertySet :=
  ⟨Keyed.insert (canonicalKey key) ⟨key, value⟩ set.entries,
    Keyed.ordered_insert _ _ set.ordered⟩

/-- Sets a property and gives the value that it replaced. -/
def replace (set : PropertySet) (key value : String) : Option String × PropertySet :=
  let displaced := Keyed.replace (canonicalKey key) ⟨key, value⟩ set.entries
  (displaced.1.map (·.value), ⟨displaced.2, Keyed.ordered_replace _ _ set.ordered⟩)

/-- What is replaced is what the key gave before. -/
theorem replace_eq (set : PropertySet) (key value : String) :
    set.replace key value = (set.get? key, set.insert key value) := by
  have displaced := Keyed.replace_eq (canonicalKey key) ⟨key, value⟩ set.ordered
  unfold replace
  simp only [displaced]
  rfl

/-- Sets pairs of a key and a value one after another. -/
def insertAll (set : PropertySet) (pairs : List (String × String)) : PropertySet :=
  pairs.foldl (fun acc pair => acc.insert pair.1 pair.2) set

/-- Lays `top` on `set`: where both have a property, the one of `top` stays. -/
def merge (set top : PropertySet) : PropertySet :=
  ⟨Keyed.insertAll top.entries set.entries, Keyed.ordered_insertAll _ set.ordered⟩

/-- The property below the scope `lead`, which ends in a dot and has `depth` segments: both forms
of its key lose the scope. -/
def belowScope (lead : List Char) (depth : Nat) (entry : String × Property) :
    Option (String × Property) :=
  let canonical := entry.1.toList
  if lead.isPrefixOf canonical then
    some (String.ofList (canonical.drop lead.length),
      ⟨String.ofList (Property.behindDots depth entry.2.key.toList), entry.2.value⟩)
  else none

/-- The properties below a scope, with the scope taken off their keys. A scope that is empty in
relaxed form selects everything. -/
def subset (set : PropertySet) (scope : String) : PropertySet :=
  let lead := (canonicalKey scope).toList
  if lead.isEmpty then set
  else
    let kept := set.entries.filterMap (belowScope (lead ++ ['.']) (lead.count '.' + 1))
    ⟨Keyed.insertAll kept [], Keyed.ordered_insertAll _ Keyed.ordered_nil⟩

/-! ## Sets from entries -/

/-- The set of a list of entries, in order. The first malformed one is an error. -/
def ofEntriesInto (set : PropertySet) : List String → Except ConfigError PropertySet
  | [] => .ok set
  | entry :: rest =>
    match Property.parseEntry entry with
    | some (key, value) => ofEntriesInto (set.insert key value) rest
    | none => .error (.invalidValue entry "" "expected 'key=value' or 'key:value'")

/-- The set of a list of entries. -/
def ofEntries (entries : List String) : Except ConfigError PropertySet :=
  ofEntriesInto empty entries

end PropertySet

end BrokerWiring
