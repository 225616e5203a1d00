import BrokerWiring.Proofs.Property.Key
import BrokerWiring.Property.Document
import BrokerWiring.Property.Environment

/-!
# Laws of property sets

What each operation on a property set does to a look-up, and the one thing that every set has which
the program can come by (`Reachable`): its properties are kept under the canonical forms of their
own spellings (`Reachable.consistent`). Selecting what lies below a scope is the operation to look
at, since it takes the scope off the canonical key and off the spelling in different ways.
-/

namespace BrokerWiring.PropertySet

open Property (canonicalKey)

variable {set top : PropertySet}

/-- A property set is what it holds. -/
theorem ext {a b : PropertySet} (h : a.entries = b.entries) : a = b := by
  cases a
  cases b
  cases h
  rfl

/-! ## Look-up -/

/-- A property that is set answers to every spelling of its key, and to nothing else. -/
theorem find?_insert (set : PropertySet) (key value other : String) :
    (set.insert key value).find? other =
      if canonicalKey other = canonicalKey key then some ⟨key, value⟩ else set.find? other :=
  Keyed.lookup_insert ..

/-- Where both sets have a property, the one on top counts. -/
theorem find?_merge (set top : PropertySet) (key : String) :
    (set.merge top).find? key = (top.find? key).or (set.find? key) :=
  Keyed.lookup_insertAll top.ordered _

theorem get?_merge (set top : PropertySet) (key : String) :
    (set.merge top).get? key = (top.get? key).or (set.get? key) := by
  rw [get?, find?_merge, Option.map_or]
  rfl

/-! ## Selection -/

/-- The properties of a set that lie below a scope, with the scope taken off both forms of their
keys. -/
def entriesBelow (set : PropertySet) (scope : String) : List (String × Property) :=
  set.entries.filterMap
    (belowScope ((canonicalKey scope).toList ++ ['.']) ((canonicalKey scope).toList.count '.' + 1))

theorem subset_of_empty {scope : String} (h : canonicalKey scope = "") :
    set.subset scope = set := by
  simp [subset, h]

theorem entries_subset (set : PropertySet) {scope : String} (h : canonicalKey scope ≠ "") :
    (set.subset scope).entries = Keyed.insertAll (set.entriesBelow scope) [] := by
  have filled : ¬(canonicalKey scope).toList.isEmpty = true := by simpa using h
  rw [subset, if_neg filled]
  rfl

/-- The key of what lies below a scope is the whole key without the scope. -/
theorem belowScope_eq_some_iff {lead : List Char} {depth : Nat} {entry below : String × Property} :
    belowScope lead depth entry = some below ↔
      entry.1.toList = lead ++ below.1.toList ∧
        below.2 =
          ⟨String.ofList (Property.behindDots depth entry.2.key.toList), entry.2.value⟩ := by
  rw [belowScope]
  constructor
  · intro h
    split at h
    · rename_i lies
      obtain ⟨rest, hrest⟩ := List.isPrefixOf_iff_prefix.mp lies
      cases h
      exact ⟨by simp [← hrest], rfl⟩
    · cases h
  · rintro ⟨hkey, hbelow⟩
    have lies : lead.isPrefixOf entry.1.toList = true :=
      List.isPrefixOf_iff_prefix.mpr ⟨_, hkey.symm⟩
    rw [if_pos lies, hkey, List.drop_left, String.ofList_toList, ← hbelow]

/-- What lies below a scope is still in order. -/
theorem ordered_entriesBelow (set : PropertySet) (scope : String) :
    Keyed.Ordered (set.entriesBelow scope) := by
  refine List.pairwise_filterMap.mpr (set.ordered.imp fun {a b} hlt below hbelow other hother => ?_)
  obtain ⟨hakey, -⟩ := belowScope_eq_some_iff.mp hbelow
  obtain ⟨hbkey, -⟩ := belowScope_eq_some_iff.mp hother
  rw [String.lt_iff, hakey, hbkey] at hlt
  -- Both keys begin with the scope, so what is left of them compares as they do.
  rcases Std.lt_trichotomy below.1 other.1 with h | h | h
  · exact h
  · rw [h] at hlt
    exact absurd hlt (List.lt_irrefl _)
  · exact absurd (List.append_left_lt (String.lt_iff.mp h)) (List.lt_asymm hlt)

/-- A selection answers to a key as the whole set does to the key below the scope. -/
theorem find?_subset (set : PropertySet) {scope : String} (h : canonicalKey scope ≠ "")
    (key : String) :
    (set.subset scope).find? key = (set.find? (scope ++ "." ++ key)).map fun property =>
      ⟨String.ofList (Property.behindDots ((canonicalKey scope).toList.count '.' + 1)
        property.key.toList), property.value⟩ := by
  have hkey : (canonicalKey (scope ++ "." ++ key)).toList =
      ((canonicalKey scope).toList ++ ['.']) ++ (canonicalKey key).toList := by
    simp [Property.toList_canonicalKey_below]
  -- A look-up in a list in order is membership, and membership passes through the selection.
  refine Option.ext fun property => ?_
  rw [find?, entries_subset set h, Keyed.lookup_insertAll (ordered_entriesBelow set scope),
    Keyed.lookup_nil, Option.or_none, Keyed.lookup_eq_some_iff (ordered_entriesBelow set scope),
    entriesBelow, List.mem_filterMap, Option.map_eq_some_iff]
  simp only [belowScope_eq_some_iff, find?, Keyed.lookup_eq_some_iff set.ordered]
  constructor
  · rintro ⟨⟨whole, property⟩, hmem, hwhole, rfl⟩
    rw [← hkey, String.toList_inj] at hwhole
    exact ⟨property, hwhole ▸ hmem, rfl⟩
  · rintro ⟨whole, hmem, rfl⟩
    exact ⟨_, hmem, hkey, rfl⟩

theorem get?_subset (set : PropertySet) {scope : String} (h : canonicalKey scope ≠ "")
    (key : String) : (set.subset scope).get? key = set.get? (scope ++ "." ++ key) := by
  rw [get?, find?_subset set h, Option.map_map, get?]
  rfl

/-! ## Reachable sets -/

/-- Every property is kept under the canonical form of its spelling. -/
def Consistent (set : PropertySet) : Prop :=
  ∀ entry ∈ set.entries, entry.1 = canonicalKey entry.2.key

/-- Consistent sets are the same as soon as every key finds the same in both. -/
theorem Consistent.ext {a b : PropertySet} (ha : a.Consistent) (hb : b.Consistent)
    (h : ∀ key, a.find? key = b.find? key) : a = b := by
  -- What is kept under a key is found there by its own spelling, so the other set has it too.
  have kept {a b : PropertySet} (ha : a.Consistent) (h : ∀ key, a.find? key = b.find? key)
      (key : String) (property : Property) (hlookup : Keyed.lookup key a.entries = some property) :
      Keyed.lookup key b.entries = some property := by
    have hkey := ha _ ((Keyed.lookup_eq_some_iff a.ordered).mp hlookup)
    have found := h property.key
    rw [find?, find?, ← hkey, hlookup] at found
    exact found.symm
  refine PropertySet.ext (Keyed.eq_of_lookup a.ordered b.ordered fun key => ?_)
  exact Option.ext fun property =>
    ⟨kept ha h key property, kept hb (fun key => (h key).symm) key property⟩

/-- A set that the program can come by. -/
inductive Reachable : PropertySet → Prop
  | empty : Reachable .empty
  | ofEntries {entries : List String} {set : PropertySet} :
      PropertySet.ofEntries entries = .ok set → Reachable set
  | ofEnvironment (scope : String) (environment : List (String × String)) :
      Reachable (.ofEnvironment scope environment)
  | ofDocument (document : Json) : Reachable (.ofDocument document)
  | insert {set : PropertySet} (key value : String) :
      Reachable set → Reachable (set.insert key value)
  | merge {set top : PropertySet} : Reachable set → Reachable top → Reachable (set.merge top)
  | subset {set : PropertySet} (scope : String) : Reachable set → Reachable (set.subset scope)

namespace Consistent

theorem empty : Consistent .empty := nofun

theorem insert (h : set.Consistent) (key value : String) : (set.insert key value).Consistent := by
  intro entry hentry
  rcases Keyed.mem_insert hentry with rfl | hentry
  · rfl
  · exact h entry hentry

theorem insertAll (h : set.Consistent) (pairs : List (String × String)) :
    (set.insertAll pairs).Consistent := by
  induction pairs generalizing set with
  | nil => exact h
  | cons pair rest ih => exact ih (h.insert pair.1 pair.2)

theorem merge (h : set.Consistent) (htop : top.Consistent) : (set.merge top).Consistent := by
  intro entry hentry
  rcases Keyed.mem_insertAll hentry with hentry | hentry
  · exact htop entry hentry
  · exact h entry hentry

theorem ofEntriesInto (h : set.Consistent) {entries : List String} {read : PropertySet}
    (hread : set.ofEntriesInto entries = .ok read) : read.Consistent := by
  induction entries generalizing set with
  | nil =>
    cases hread
    exact h
  | cons entry rest ih =>
    rw [PropertySet.ofEntriesInto] at hread
    split at hread
    · exact ih (h.insert _ _) hread
    · cases hread

end Consistent

/-- Taking a scope off the canonical key and off the spelling leaves the canonical form of what is
left of the spelling. -/
theorem eq_canonicalKey_of_belowScope {scope : List Char} {entry below : String × Property}
    (h : entry.1 = canonicalKey entry.2.key)
    (hbelow : belowScope (scope ++ ['.']) (scope.count '.' + 1) entry = some below) :
    below.1 = canonicalKey below.2.key := by
  obtain ⟨hkey, hproperty⟩ := belowScope_eq_some_iff.mp hbelow
  have hspelling : Property.relaxed entry.2.key.toList = scope ++ '.' :: below.1.toList := by
    rw [← Property.toList_canonicalKey, ← h, hkey]
    simp
  calc below.1
      = String.ofList (Property.relaxed
          (Property.behindDots (scope.count '.' + 1) entry.2.key.toList)) := by
        rw [Property.relaxed_behindDots, hspelling, Property.behindDots_append,
          String.ofList_toList]
    _ = canonicalKey below.2.key := by
        rw [hproperty, canonicalKey, String.toList_ofList]

theorem Consistent.subset (h : set.Consistent) (scope : String) :
    (set.subset scope).Consistent := by
  by_cases empty : canonicalKey scope = ""
  · rw [subset_of_empty empty]
    exact h
  · intro entry hentry
    rw [entries_subset set empty] at hentry
    rcases Keyed.mem_insertAll hentry with hentry | hentry
    · obtain ⟨whole, hwhole, hbelow⟩ := List.mem_filterMap.mp hentry
      exact eq_canonicalKey_of_belowScope (h whole hwhole) hbelow
    · cases hentry

/-- Whatever the program does to a set, its properties are kept under the canonical forms of their
spellings. -/
theorem Reachable.consistent (h : set.Reachable) : set.Consistent := by
  induction h with
  | empty => exact .empty
  | ofEntries hread => exact Consistent.empty.ofEntriesInto hread
  | ofEnvironment => exact Consistent.empty.insertAll _
  | ofDocument => exact Consistent.empty.insertAll _
  | insert key value _ ih => exact ih.insert key value
  | merge _ _ ih ihtop => exact ih.merge ihtop
  | subset scope _ ih => exact ih.subset scope

end BrokerWiring.PropertySet
