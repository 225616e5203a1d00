import BrokerWiring.Proofs.Json.Ways
import BrokerWiring.Proofs.Property.Log

/-!
# What flattening a document comes to

The reference is a walk that knows nothing of keys or of the order in which a document keeps its
members: depth first, the members of an object in the order of the bytes of their names, and only
objects are gone into (`Json.walk`). A value sets just what this walk lists, pair after pair
(`flattens_ofDocument`). So every text that it comes by is found at the key that its way spells, and
two of them can get in each other's way only if their keys are spellings of one another.
-/

namespace BrokerWiring

open Property (canonicalKey pathKey under leafPaths memberLeafPaths_eq_flatMap)

namespace Json

/-! ## The walk -/

/-- What goes by names, in the order of the bytes of the names. -/
def inByteOrder {α : Type} (named : List (String × α)) : List (String × α) :=
  named.mergeSort fun a b => Utf8.encodeText a.1 ≤ Utf8.encodeText b.1

mutual

/-- The texts of a document that are reached through objects alone, each with the names on the way
to it: depth first, the members of an object in the order of the bytes of their names. -/
def walk : Json → List (List String × String)
  | .object members =>
    (inByteOrder (memberWalks members)).flatMap fun member => under member.1 member.2
  | document => document.leafText?.toList.map fun text => ([], text)

/-- The walks through the members of an object. -/
def memberWalks : List (String × Json) → List (String × List (List String × String))
  | [] => []
  | (name, child) :: rest => (name, walk child) :: memberWalks rest

end

/-- The pairs that a walk lists: the key that each way spells, and the text at its end. -/
def flatPairs (document : Json) : List (String × String) :=
  document.walk.map fun leaf => (pathKey leaf.1, leaf.2)

/-! ## Values are walked as they stand -/

theorem memberWalks_eq_map (members : List (String × Json)) :
    memberWalks members = members.map fun member => (member.1, member.2.walk) := by
  induction members with
  | nil => rfl
  | cons member rest ih => rw [memberWalks, ih, List.map_cons]

/-- What is in order of its names is in the order of their bytes. -/
theorem inByteOrder_of_ordered {α : Type} {named : List (String × α)}
    (ordered : Keyed.Ordered named) : inByteOrder named = named := by
  apply List.mergeSort_of_pairwise
  refine ordered.imp fun {a b} hlt => ?_
  exact decide_eq_true (List.le_of_lt (Utf8.encodeText_lt_encodeText hlt))

/-- In a value the members stand in the order of the walk. -/
theorem walk_of_tidy {document : Json} (tidy : document.Tidy) :
    document.walk = leafPaths document := by
  induction tidy with
  | @object members ordered _ ih =>
    have sorted : inByteOrder (memberWalks members) = memberWalks members := by
      apply inByteOrder_of_ordered
      rw [memberWalks_eq_map]
      exact List.pairwise_map.mpr ordered
    rw [walk, sorted, memberWalks_eq_map, List.flatMap_map, leafPaths,
      memberLeafPaths_eq_flatMap]
    refine List.flatMap_congr fun member hmember => ?_
    rw [ih member hmember]
  | @childless document none =>
    cases document with
    | object members =>
      obtain rfl : members = [] := none
      rw [walk, memberWalks, inByteOrder, List.mergeSort_nil]
      rfl
    | null => rfl
    | bool b => rfl
    | number n => rfl
    | string s => rfl
    | array items => rfl

end Json

/-! ## What is set -/

namespace PropertySet

variable {log : List (String × String)} {pair other : String × String}

/-- Whatever was inserted is there. -/
theorem contains_insertAll (h : pair ∈ log) : (empty.insertAll log).contains pair.1 = true := by
  obtain ⟨latest, hlatest⟩ := exists_latest? h rfl
  rw [contains, find?_insertAll, hlatest]
  rfl

/-- Of what was inserted, only spellings of one key find the same property. -/
theorem canonicalKey_eq_of_find?_eq (h : pair ∈ log)
    (same : (empty.insertAll log).find? pair.1 = (empty.insertAll log).find? other.1) :
    canonicalKey pair.1 = canonicalKey other.1 := by
  rw [find?_insertAll, find?_insertAll] at same
  obtain ⟨latest, hlatest⟩ := exists_latest? h rfl
  rw [hlatest, Option.map_some, eq_comm, Option.map_eq_some_iff] at same
  obtain ⟨found, hfound, hproperty⟩ := same
  -- A property shows the spelling that it was inserted under.
  have spelled : found.1 = latest.1 := (Property.mk.inj hproperty).1
  rw [← canonicalKey_of_latest? hlatest, ← canonicalKey_of_latest? hfound, spelled]

/-- A set has what the walk through a document lists, and nothing else. -/
structure Flattens (set : PropertySet) (document : Json) : Prop where
  /-- The pairs are inserted in the order of the walk. -/
  inserted : set = empty.insertAll document.flatPairs
  /-- Each of their keys is set. -/
  present : ∀ pair ∈ document.flatPairs, set.contains pair.1 = true
  /-- Keys that share a property are spellings of one another. -/
  apart : ∀ pair ∈ document.flatPairs, ∀ other ∈ document.flatPairs,
    set.find? pair.1 = set.find? other.1 → canonicalKey pair.1 = canonicalKey other.1

/-- A value is flattened as the walk through it lists it. -/
theorem flattens_ofDocument {document : Json} (tidy : document.Tidy) :
    (ofDocument document).Flattens document := by
  have inserted : ofDocument document = empty.insertAll document.flatPairs := by
    rw [ofDocument_eq_insertAll, Json.flatPairs, Json.walk_of_tidy tidy]
  constructor
  case inserted => exact inserted
  case present =>
    intro pair hpair
    rw [inserted]
    exact contains_insertAll hpair
  case apart =>
    intro pair hpair other _ same
    rw [inserted] at same
    exact canonicalKey_eq_of_find?_eq hpair same

namespace Sample

/-- A value with an empty name at its root and one below it, two spellings of one key at different
depths, and an array that is not all texts. -/
def branching : Json :=
  .object
    [("", .object [("host", .string "one"), ("port", .null)]),
      ("Host", .array [.string "x", .bool true, .null, .array [.string "y"],
        .number (.natural 2)]),
      ("host", .object [("", .string "two")]),
      ("hosts", .array [])]

theorem tidy_branching : branching.Tidy := by
  refine .object (by decide +kernel) ?_
  simp only [List.forall_mem_cons]
  refine ⟨.object (by decide +kernel) ?_, .childless rfl, .object (by decide +kernel) ?_,
    .childless rfl, nofun⟩
  · simp only [List.forall_mem_cons]
    exact ⟨.childless rfl, .childless rfl, nofun⟩
  · simp only [List.forall_mem_cons]
    exact ⟨.childless rfl, nofun⟩

end Sample

theorem flattens_sample :
    Sample.branching.Tidy ∧ (ofDocument Sample.branching).Flattens Sample.branching ∧
      Sample.branching.flatPairs =
        [("host", "one"), ("Host", "x,true,2"), ("host.", "two"), ("hosts", "")] ∧
      (ofDocument Sample.branching).pairs =
        [("Host", "x,true,2"), ("host.", "two"), ("hosts", "")] := by
  have tidy := Sample.tidy_branching
  have pairs : Sample.branching.flatPairs =
      [("host", "one"), ("Host", "x,true,2"), ("host.", "two"), ("hosts", "")] := by
    rw [Json.flatPairs, Json.walk_of_tidy tidy]
    decide +kernel
  exact ⟨tidy, flattens_ofDocument tidy, pairs, by decide +kernel⟩

end PropertySet

end BrokerWiring
