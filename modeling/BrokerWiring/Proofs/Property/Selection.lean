import BrokerWiring.Proofs.Property.Segments
import BrokerWiring.Proofs.Property.Set

/-!
# Selecting below a scope is exact

A selection answers to a key as the whole set does to the key below the scope, and it shows the
spelling of that key without the segments of the scope. It may be done in two stages or in one, and
in front of a merge or behind it (`selectsExactly_of_reachable`). Only a set whose properties are
kept under the canonical forms of their spellings selects in this way: the scope is taken off a
canonical key by its characters and off a spelling by its dots.
-/

namespace BrokerWiring.PropertySet

open Property (canonicalKey segments dropSegments behindDots)

variable {set top : PropertySet} {scope inner : String}

/-- What selecting below a scope comes to. -/
structure SelectsExactly (set top : PropertySet) : Prop where
  /-- A key has the value that the key below the scope has in the whole set. -/
  value : ∀ scope key, canonicalKey scope ≠ "" →
    (set.subset scope).get? key = set.get? (scope ++ "." ++ key)
  /-- Its spelling there has lost as many segments as the scope has. -/
  spelling : ∀ scope key, canonicalKey scope ≠ "" →
    (set.subset scope).sourceKey? key =
      (set.sourceKey? (scope ++ "." ++ key)).map (dropSegments (segments scope).length)
  /-- Selecting in a selection is selecting below both scopes. -/
  nested : ∀ scope inner, canonicalKey scope ≠ "" → canonicalKey inner ≠ "" →
    (set.subset scope).subset inner = set.subset (scope ++ "." ++ inner)
  /-- Selections from two layers lie on each other as the layers do. -/
  merged : ∀ scope, (set.merge top).subset scope = (set.subset scope).merge (top.subset scope)
  /-- A scope that is empty in relaxed form selects everything. -/
  whole : ∀ scope, canonicalKey scope = "" → set.subset scope = set

/-! ## Spellings -/

/-- The spelling that a consistent set finds for a key has the canonical form of the key. -/
theorem canonicalKey_of_find? (h : set.Consistent) {key : String} {property : Property}
    (hfind : set.find? key = some property) : canonicalKey property.key = canonicalKey key :=
  (h _ ((Keyed.lookup_eq_some_iff set.ordered).mp hfind)).symm

/-- The spelling of a key below a scope has more segments than the scope. -/
theorem count_lt_of_find? (h : set.Consistent) {key : String} {property : Property}
    (hfind : set.find? (scope ++ "." ++ key) = some property) :
    scope.toList.count '.' < property.key.toList.count '.' := by
  have same : property.key.toList.count '.' = (scope ++ "." ++ key).toList.count '.' := by
    rw [← Property.count_relaxed, ← Property.toList_canonicalKey, canonicalKey_of_find? h hfind,
      Property.toList_canonicalKey, Property.count_relaxed]
  have dot : ".".toList.count '.' = 1 := rfl
  rw [same, String.toList_append, String.toList_append, List.count_append, List.count_append]
  omega

theorem sourceKey?_subset (h : set.Consistent) (hscope : canonicalKey scope ≠ "") (key : String) :
    (set.subset scope).sourceKey? key =
      (set.sourceKey? (scope ++ "." ++ key)).map (dropSegments (segments scope).length) := by
  rw [sourceKey?, find?_subset set hscope, sourceKey?]
  cases hfind : set.find? (scope ++ "." ++ key) with
  | none => rfl
  | some property =>
    have deep := count_lt_of_find? h hfind
    simp only [Option.map_some, Option.some.injEq, Property.toList_canonicalKey,
      Property.count_relaxed, Property.length_segments]
    exact Property.ofList_behindDots deep

/-! ## Selections of selections and of merges -/

theorem subset_subset (h : set.Consistent) (hscope : canonicalKey scope ≠ "")
    (hinner : canonicalKey inner ≠ "") :
    (set.subset scope).subset inner = set.subset (scope ++ "." ++ inner) := by
  have hboth : canonicalKey (scope ++ "." ++ inner) ≠ "" := by
    intro empty
    have := congrArg String.toList empty
    rw [Property.toList_canonicalKey_below] at this
    exact absurd this (by simp)
  refine Consistent.ext ((h.subset scope).subset inner) (h.subset _) fun key => ?_
  have below : scope ++ "." ++ (inner ++ "." ++ key) = scope ++ "." ++ inner ++ "." ++ key := by
    simp only [String.append_assoc]
  rw [find?_subset _ hinner, find?_subset _ hscope, find?_subset _ hboth, below, Option.map_map]
  refine congrFun (congrArg Option.map (funext fun property => ?_)) _
  -- The dots of both scopes and the one between them are passed in either way.
  have dots : (canonicalKey (scope ++ "." ++ inner)).toList.count '.' + 1 =
      ((canonicalKey scope).toList.count '.' + 1) +
        ((canonicalKey inner).toList.count '.' + 1) := by
    rw [Property.toList_canonicalKey_below, List.count_append, List.count_cons_self]
    omega
  rw [Function.comp_apply, dots,
    Property.behindDots_add ((canonicalKey scope).toList.count '.' + 1), String.toList_ofList]

theorem subset_merge (h : set.Consistent) (htop : top.Consistent) (scope : String) :
    (set.merge top).subset scope = (set.subset scope).merge (top.subset scope) := by
  by_cases hscope : canonicalKey scope = ""
  · rw [subset_of_empty hscope, subset_of_empty hscope, subset_of_empty hscope]
  · refine Consistent.ext ((h.merge htop).subset scope) ((h.subset scope).merge (htop.subset scope))
      fun key => ?_
    rw [find?_merge, find?_subset _ hscope, find?_subset _ hscope, find?_subset _ hscope,
      find?_merge, Option.map_or]

/-- Whatever the program came by, selecting from it is exact. -/
theorem selectsExactly_of_reachable (h : set.Reachable) (htop : top.Reachable) :
    SelectsExactly set top where
  value _ key hscope := get?_subset set hscope key
  spelling _ key hscope := sourceKey?_subset h.consistent hscope key
  nested _ _ hscope hinner := subset_subset h.consistent hscope hinner
  merged scope := subset_merge h.consistent htop.consistent scope
  whole _ hscope := subset_of_empty hscope

namespace Sample

/-- Properties whose keys share a scope that is spelled in several ways, and two that only seem to
be below it. -/
def nested : PropertySet :=
  ((((empty.insert "a_b.C..Key." "1").insert "AB.c.other" "2").insert "ab.c" "3").insert
    "abc.c.key" "4")

/-- A layer that spells one of these keys anew. -/
def overlay : PropertySet := empty.insert "ab.C.o-ther" "5"

theorem reachable_nested : Reachable nested :=
  (((Reachable.empty.insert _ _).insert _ _).insert _ _).insert _ _

end Sample

theorem selectsExactly_sample :
    Sample.nested.Reachable ∧ Sample.overlay.Reachable ∧
      SelectsExactly Sample.nested Sample.overlay ∧
        ((Sample.nested.merge Sample.overlay).subset "A-B.c").toList =
          [⟨".Key.", "1"⟩, ⟨"o-ther", "5"⟩] :=
  ⟨Sample.reachable_nested, Reachable.empty.insert _ _,
    selectsExactly_of_reachable Sample.reachable_nested (Reachable.empty.insert _ _),
    by decide +kernel⟩

end BrokerWiring.PropertySet
