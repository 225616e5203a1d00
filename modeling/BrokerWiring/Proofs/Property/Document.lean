import BrokerWiring.Property.Document

/-!
# The leaves of a document

A document sets properties leaf by leaf. `leafPaths` lists its leaves with the names on the way to
each of them, in the order of a walk that goes member by member, and knows nothing of keys. What the
document sets is that list, with the names on a way joined by dots; names that are empty do not
count as long as no other comes before them (`ofDocument_eq_insertAll`).
-/

namespace BrokerWiring

namespace Property

/-! ## Ways to leaves -/

/-- The leaves below a member of an object: its name comes first on their ways. -/
def under (name : String) (leaves : List (List String × String)) : List (List String × String) :=
  leaves.map fun leaf => (name :: leaf.1, leaf.2)

mutual

/-- The leaves of a document: the names on the way to each, and its text. -/
def leafPaths : Json → List (List String × String)
  | .null => []
  | .object members => memberLeafPaths members
  | .array items => [([], ",".intercalate (items.filterMap scalarText?))]
  | .string s => [([], s)]
  | .bool b => [([], if b then "true" else "false")]
  | .number n => [([], n.text)]

/-- The leaves of the members of an object. -/
def memberLeafPaths : List (String × Json) → List (List String × String)
  | [] => []
  | (name, child) :: rest => under name (leafPaths child) ++ memberLeafPaths rest

end

/-- The key that the names on a way spell. -/
def pathKey (names : List String) : String := ".".intercalate (names.dropWhile (· == ""))

theorem memberLeafPaths_eq_flatMap (members : List (String × Json)) :
    memberLeafPaths members =
      members.flatMap fun member => under member.1 (leafPaths member.2) := by
  induction members with
  | nil => rfl
  | cons member rest ih => rw [memberLeafPaths, ih, List.flatMap_cons]

/-! ## Keys of ways -/

/-- Behind a key that is not empty every name counts. -/
theorem foldl_joinKey {path : String} (h : path ≠ "") (names : List String) :
    names.foldl joinKey path = ".".intercalate (path :: names) := by
  induction names generalizing path with
  | nil => exact String.intercalate_singleton.symm
  | cons name rest ih =>
    have filled : ¬path.isEmpty = true := by rwa [String.isEmpty_iff]
    have longer : path ++ "." ++ name ≠ "" := by
      intro empty
      have := congrArg String.toList empty
      rw [String.toList_append, String.toList_append] at this
      exact absurd this (by simp)
    rw [List.foldl_cons, joinKey, if_neg filled, ih longer, String.intercalate_cons_append,
      String.intercalate_cons_cons]

/-- The key at a leaf is that of its way. -/
theorem foldl_joinKey_root (names : List String) : names.foldl joinKey "" = pathKey names := by
  induction names with
  | nil => exact String.intercalate_nil.symm
  | cons name rest ih =>
    by_cases empty : name = ""
    · subst empty
      exact ih
    · have first : (name :: rest).dropWhile (· == "") = name :: rest := by simp [empty]
      rw [pathKey, first]
      exact foldl_joinKey empty rest

/-! ## The walk -/

mutual

/-- The walk below a key spells the way to each leaf behind that key. -/
theorem leaves_eq_map (path : String) (document : Json) :
    leaves path document =
      (leafPaths document).map fun leaf => (leaf.1.foldl joinKey path, leaf.2) :=
  match document with
  | .null => by rw [leaves, leafPaths, List.map_nil]
  | .object members => by rw [leaves, leafPaths, memberLeaves_eq_map path members]
  | .array items => by rw [leaves, leafPaths, List.map_singleton, List.foldl_nil]
  | .string s => by rw [leaves, leafPaths, List.map_singleton, List.foldl_nil]
  | .bool b => by rw [leaves, leafPaths, List.map_singleton, List.foldl_nil]
  | .number n => by rw [leaves, leafPaths, List.map_singleton, List.foldl_nil]

theorem memberLeaves_eq_map (path : String) (members : List (String × Json)) :
    memberLeaves path members =
      (memberLeafPaths members).map fun leaf => (leaf.1.foldl joinKey path, leaf.2) :=
  match members with
  | [] => by rw [memberLeaves, memberLeafPaths, List.map_nil]
  | (name, child) :: rest => by
    rw [memberLeaves, memberLeafPaths, List.map_append, leaves_eq_map (joinKey path name) child,
      memberLeaves_eq_map path rest, under, List.map_map]
    rfl

end

end Property

/-- What a document sets are its leaves, each at the key of its way. -/
theorem PropertySet.ofDocument_eq_insertAll (document : Json) :
    PropertySet.ofDocument document = PropertySet.empty.insertAll
      ((Property.leafPaths document).map fun leaf => (Property.pathKey leaf.1, leaf.2)) := by
  rw [ofDocument, Property.leaves_eq_map]
  simp only [Property.foldl_joinKey_root]

end BrokerWiring
