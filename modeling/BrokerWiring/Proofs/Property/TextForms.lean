import Mathlib.Data.List.Forall2
import BrokerWiring.Proofs.Json.Leaves
import BrokerWiring.Proofs.Property.Entries
import BrokerWiring.Proofs.Property.Selection

/-!
# The text forms of a property set agree

The properties of a set can be written as entries, as the members of one flat object, and as the
strings of a nested object whose names are the segments of the keys. Each of these is read in a way
of its own, and all of them give the set back, spellings included (`textForms_agree`), as long as
every key can stand in an entry (`Writable`) and no key lies below another one (`Unrelated`). The
values may be any texts.
-/

namespace BrokerWiring

open Property (canonicalKey parseEntry segments leafPaths pathKey)

variable {set : PropertySet} {order : List (String × String)}

/-! ## Written properties -/

/-- A key can be written in front of a separator and as a way through objects. -/
structure Property.Writable (key : String) : Prop where
  filled : key ≠ ""
  trimmed : Text.trim key = key
  unseparated : ':' ∉ key.toList ∧ '=' ∉ key.toList
  headed : (segments key).head? ≠ some ""

instance (key : String) : Decidable (Property.Writable key) :=
  decidable_of_iff
    (key ≠ "" ∧ Text.trim key = key ∧ (':' ∉ key.toList ∧ '=' ∉ key.toList) ∧
      (segments key).head? ≠ some "")
    ⟨fun ⟨filled, trimmed, unseparated, headed⟩ => ⟨filled, trimmed, unseparated, headed⟩,
      fun h => ⟨h.filled, h.trimmed, h.unseparated, h.headed⟩⟩

/-- The object that has the value of each pair at the end of the segments of its key. -/
def Json.nestedObject (pairs : List (String × String)) : Json :=
  .ofLeaves (pairs.map fun pair => (segments pair.1, pair.2))

namespace PropertySet

/-- No key lies below another one. -/
def Unrelated (set : PropertySet) : Prop :=
  ∀ pair ∈ set.pairs, ∀ other ∈ set.pairs, ∀ rest, other.1 ≠ pair.1 ++ "." ++ rest

theorem unrelated_iff : set.Unrelated ↔ ∀ pair ∈ set.pairs, ∀ other ∈ set.pairs,
    ¬(pair.1.toList ++ ['.']) <+: other.1.toList := by
  have below (key other : String) :
      (key.toList ++ ['.']) <+: other.toList ↔ ∃ rest, other = key ++ "." ++ rest := by
    constructor
    · rintro ⟨rest, h⟩
      exact ⟨String.ofList rest, by simp [← String.toList_inj, ← h]⟩
    · rintro ⟨rest, rfl⟩
      exact ⟨rest.toList, by simp⟩
  simp only [Unrelated, below, not_exists, ne_eq]

/-- What a set lists makes the set again, in whatever order it is inserted. -/
theorem insertAll_perm_pairs (h : set.Consistent) (horder : order.Perm set.pairs) :
    empty.insertAll order = set := by
  refine (Consistent.empty.insertAll order).ext h fun key => ?_
  rw [find?_insertAll]
  cases hlatest : latest? order key with
  | some pair =>
    have listed := (mem_pairs_iff h).mp (horder.mem_iff.mp (mem_of_latest? hlatest))
    rw [find?, canonicalKey_of_latest? hlatest] at listed
    exact listed.symm
  | none =>
    cases hfind : set.find? key with
    | none => rfl
    | some property =>
      -- The property would be listed, and so be found in the log.
      have same := canonicalKey_of_find? h hfind
      have listed : (property.key, property.value) ∈ set.pairs := by
        rw [mem_pairs_iff h, find?, same]
        exact hfind
      obtain ⟨latest, hfound⟩ := exists_latest? (horder.mem_iff.mpr listed) same
      rw [hfound] at hlatest
      cases hlatest

end PropertySet

/-! ## Entries -/

namespace Property

theorem parseEntry_of_writtenAs {pair : String × String} {entry : String} (h : Writable pair.1)
    (hentry : WrittenAs pair entry) : parseEntry entry = some pair :=
  parseEntry_eq_some_iff.mpr
    ⟨⟨pair.1, hentry, h.unseparated, Text.trim_eq_iff.mp h.trimmed⟩, h.filled⟩

end Property

namespace PropertySet

/-- Entries set the pairs that they are written for. -/
theorem ofEntriesInto_of_writtenAs (set : PropertySet) {entries : List String}
    (hwritable : ∀ pair ∈ order, Property.Writable pair.1)
    (h : List.Forall₂ Property.WrittenAs order entries) :
    set.ofEntriesInto entries = .ok (set.insertAll order) := by
  have written : List.Forall₂ (fun pair entry =>
      Property.Writable pair.1 ∧ Property.WrittenAs pair entry) order entries :=
    (List.forall₂_and_left order entries).mpr ⟨hwritable, h⟩
  exact ofEntriesInto_of_parsed set
    (written.flip.imp fun _ _ both => Property.parseEntry_of_writtenAs both.1 both.2)

end PropertySet

/-! ## Documents -/

namespace Property

/-- The segments of a key are a way to the key itself if the first of them is not empty. -/
theorem Writable.pathKey_segments {key : String} (h : Writable key) :
    pathKey (segments key) = key := by
  have first : (segments key).dropWhile (· == "") = segments key := by
    cases hsegments : segments key with
    | nil => rfl
    | cons name rest =>
      have named : name ≠ "" := by
        rintro rfl
        exact h.headed (by rw [hsegments]; rfl)
      simp [named]
  rw [pathKey, first, intercalate_segments]

theorem Writable.pathKey_singleton {key : String} (h : Writable key) : pathKey [key] = key := by
  have first : [key].dropWhile (· == "") = [key] := by simp [h.filled]
  rw [pathKey, first, String.intercalate_singleton]

/-- A key whose way begins with the way of another one is that one or lies below it. -/
theorem eq_or_below_of_prefix {key other : String} (h : segments key <+: segments other) :
    other = key ∨ ∃ rest, other = key ++ "." ++ rest := by
  obtain ⟨more, hmore⟩ := h
  have cut (key : String) : segments key ≠ [] := by
    simp [segments, List.splitOn_ne_nil]
  rw [← intercalate_segments other, ← hmore]
  by_cases none : more = []
  · left
    rw [none, List.append_nil, intercalate_segments]
  · right
    rw [String.intercalate_append_of_ne_nil (cut key) none, intercalate_segments]
    exact ⟨_, rfl⟩

end Property

namespace PropertySet

/-- The keys of different pairs are different, also in relaxed form. -/
theorem nodup_canonicalKey (h : set.Consistent) (horder : order.Perm set.pairs) :
    (order.map fun pair => canonicalKey pair.1).Nodup := by
  rw [(horder.map _).nodup_iff, map_canonicalKey_pairs h]
  exact Keyed.nodup_keys set.ordered

/-- A document sets what a set lists if it has its pairs for leaves. -/
theorem ofDocument_of_leafPaths (h : set.Consistent) (horder : order.Perm set.pairs)
    {document : Json} (way : String → List String)
    (hway : ∀ pair ∈ order, pathKey (way pair.1) = pair.1)
    (hleaves : (leafPaths document).Perm (order.map fun pair => (way pair.1, pair.2))) :
    ofDocument document = set := by
  rw [ofDocument_eq_insertAll]
  refine insertAll_perm_pairs h ((hleaves.map _).trans ?_)
  have same : (order.map fun pair => (way pair.1, pair.2)).map
      (fun leaf => (pathKey leaf.1, leaf.2)) = order := by
    rw [List.map_map]
    refine (List.map_congr_left fun pair hpair => ?_).trans (List.map_id _)
    exact Prod.ext (hway pair hpair) rfl
  rw [same]
  exact horder

/-- The ways of the keys are apart if none of the keys lies below another one. -/
theorem pairwise_apart (h : set.Consistent) (hunrelated : set.Unrelated)
    (horder : order.Perm set.pairs) :
    order.Pairwise fun pair other => Apart (segments pair.1) (segments other.1) := by
  have distinct := List.pairwise_map.mp (nodup_canonicalKey h horder)
  refine distinct.imp_of_mem fun {pair other} hpair hother differ => ?_
  have hpair := horder.mem_iff.mp hpair
  have hother := horder.mem_iff.mp hother
  constructor
  · intro through
    rcases Property.eq_or_below_of_prefix through with same | ⟨rest, below⟩
    · exact differ (same ▸ rfl)
    · exact hunrelated pair hpair other hother rest below
  · intro through
    rcases Property.eq_or_below_of_prefix through with same | ⟨rest, below⟩
    · exact differ (same ▸ rfl)
    · exact hunrelated other hother pair hpair rest below

/-- However the properties of a set are written, in any order, they are read back as the set. -/
theorem textForms_agree (reachable : set.Reachable)
    (hwritable : ∀ pair ∈ set.pairs, Property.Writable pair.1) (hunrelated : set.Unrelated)
    (horder : order.Perm set.pairs) :
    (∀ entries, List.Forall₂ Property.WrittenAs order entries → ofEntries entries = .ok set) ∧
      ofDocument (.flatObject order) = set ∧ ofDocument (.nestedObject order) = set := by
  have h := reachable.consistent
  have writable : ∀ pair ∈ order, Property.Writable pair.1 := fun pair hpair =>
    hwritable pair (horder.mem_iff.mp hpair)
  refine ⟨fun entries hentries => ?_, ?_, ?_⟩
  · rw [ofEntries, ofEntriesInto_of_writtenAs _ writable hentries, insertAll_perm_pairs h horder]
  · refine ofDocument_of_leafPaths h horder (fun key => [key])
      (fun pair hpair => (writable pair hpair).pathKey_singleton)
      (Property.leafPaths_flatObject (List.Nodup.of_map canonicalKey ?_))
    rw [List.map_map]
    exact nodup_canonicalKey h horder
  · refine ofDocument_of_leafPaths h horder segments
      (fun pair hpair => (writable pair hpair).pathKey_segments)
      (Property.leafPaths_ofLeaves ?_)
    exact List.pairwise_map.mpr (pairwise_apart h hunrelated horder)

namespace Sample

/-- Properties with an empty segment, with scopes that only their spellings tell apart, and with
values that look like entries and keys. -/
def scattered : PropertySet :=
  ((empty.insert "rabbitmq.ssl..Key" "a=b:c\nd.e").insert "Rabbit-MQ.host" "x,y").insert
    "dynamic" ""

theorem reachable_scattered : scattered.Reachable :=
  ((Reachable.empty.insert _ _).insert _ _).insert _ _

theorem pairs_scattered : scattered.pairs =
    [("dynamic", ""), ("Rabbit-MQ.host", "x,y"), ("rabbitmq.ssl..Key", "a=b:c\nd.e")] := by
  decide +kernel

/-- The properties in another order than that of their canonical keys. -/
def shuffled : List (String × String) :=
  [("rabbitmq.ssl..Key", "a=b:c\nd.e"), ("dynamic", ""), ("Rabbit-MQ.host", "x,y")]

/-- They are entries with either separator. -/
def shuffledEntries : List String :=
  ["rabbitmq.ssl..Key:a=b:c\nd.e", "dynamic=", "Rabbit-MQ.host:x,y"]

end Sample

theorem textForms_sample :
    Sample.scattered.Reachable ∧
      (∀ pair ∈ Sample.scattered.pairs, Property.Writable pair.1) ∧ Sample.scattered.Unrelated ∧
      Sample.shuffled.Perm Sample.scattered.pairs ∧
      ofEntries Sample.shuffledEntries = .ok Sample.scattered ∧
      ofDocument (.flatObject Sample.shuffled) = Sample.scattered ∧
      ofDocument (.nestedObject Sample.shuffled) = Sample.scattered := by
  have writable : ∀ pair ∈ Sample.scattered.pairs, Property.Writable pair.1 := by
    rw [Sample.pairs_scattered]
    decide +kernel
  have unrelated : Sample.scattered.Unrelated := by
    rw [unrelated_iff, Sample.pairs_scattered]
    decide +kernel
  have order : Sample.shuffled.Perm Sample.scattered.pairs := by
    rw [Sample.pairs_scattered]
    decide +kernel
  have written : List.Forall₂ Property.WrittenAs Sample.shuffled Sample.shuffledEntries := by
    decide +kernel
  have agree := textForms_agree Sample.reachable_scattered writable unrelated order
  exact ⟨Sample.reachable_scattered, writable, unrelated, order, agree.1 _ written, agree.2⟩

end PropertySet

end BrokerWiring
