import Mathlib.Data.List.Dedup
import Mathlib.Data.List.Induction
import BrokerWiring.Proofs.Property.Set
import BrokerWiring.Proofs.Text.Utf8

/-!
# Property sets as logs

A property set forgets in which order its properties were set, but not what was set last. Seen from
outside it is the log of the insertions that made it (`Logged`), where a merge counts as inserting
the properties of the set on top: every question is answered by the latest insertion of the key in
question (`RefinesLog`).
-/

namespace BrokerWiring.PropertySet

open Property (canonicalKey)

/-- The pairs of spelling and value that a set lists. -/
def pairs (set : PropertySet) : List (String × String) :=
  set.toList.map fun property => (property.key, property.value)

/-- A set is made by a log of insertions; a merge counts as inserting the pairs of the set that is
laid on top, which may be any that the program can come by. -/
inductive Logged : PropertySet → List (String × String) → Prop
  | empty : Logged .empty []
  | insert {set : PropertySet} {log : List (String × String)} (key value : String) :
      Logged set log → Logged (set.insert key value) (log ++ [(key, value)])
  | merge {set top : PropertySet} {log : List (String × String)} :
      Logged set log → Reachable top → Logged (set.merge top) (log ++ top.pairs)

/-- The latest pair of a log for a key, whatever its spelling. -/
def latest? (log : List (String × String)) (key : String) : Option (String × String) :=
  log.findRev? fun pair => canonicalKey pair.1 = canonicalKey key

/-- A set answers every question as the log of its insertions does. -/
structure RefinesLog (set : PropertySet) (log : List (String × String)) : Prop where
  /-- The value at a key is that of the latest insertion; there is none without one. -/
  value : ∀ key, set.get? key = (latest? log key).map (·.2)
  /-- So is the spelling. -/
  spelling : ∀ key, set.sourceKey? key = (latest? log key).map (·.1)
  /-- A key is set if it has a value. -/
  membership : ∀ key, set.contains key = (latest? log key).isSome
  /-- Setting a key gives the value that it replaces, and adds the pair to the log. -/
  replacement : ∀ key value,
    (set.replace key value).1 = (latest? log key).map (·.2) ∧
      Logged (set.replace key value).2 (log ++ [(key, value)])
  /-- There are as many properties as keys in the log, up to spelling. -/
  size : set.size = (log.map fun pair => canonicalKey pair.1).dedup.length
  /-- The properties that are listed are the latest of their keys. -/
  listed : ∀ pair, pair ∈ set.pairs ↔ latest? log pair.1 = some pair
  /-- For every key in the log there is one of them. -/
  unique : ∀ pair ∈ log, ∃! other, other ∈ set.pairs ∧ canonicalKey other.1 = canonicalKey pair.1
  /-- They come in strictly increasing order of the bytes of their canonical keys. -/
  order : (set.pairs.map fun pair => Utf8.encodeText (canonicalKey pair.1)).Pairwise (· < ·)

variable {set top : PropertySet} {log : List (String × String)}

/-! ## The latest pair -/

theorem latest?_concat (log : List (String × String)) (pair : String × String) (key : String) :
    latest? (log ++ [pair]) key =
      if canonicalKey key = canonicalKey pair.1 then some pair else latest? log key := by
  by_cases same : canonicalKey key = canonicalKey pair.1
  · simp [latest?, same]
  · have other : ¬canonicalKey pair.1 = canonicalKey key := fun h => same h.symm
    simp [latest?, same, other]

theorem latest?_congr {key other : String} (h : canonicalKey key = canonicalKey other) :
    latest? log key = latest? log other := by
  rw [latest?, h, latest?]

theorem canonicalKey_of_latest? {key : String} {pair : String × String}
    (h : latest? log key = some pair) : canonicalKey pair.1 = canonicalKey key := by
  rw [latest?, List.findRev?_eq_find?_reverse] at h
  simpa using List.find?_some h

theorem mem_of_latest? {key : String} {pair : String × String}
    (h : latest? log key = some pair) : pair ∈ log := by
  rw [latest?, List.findRev?_eq_find?_reverse] at h
  exact List.mem_reverse.mp (List.mem_of_find?_eq_some h)

theorem exists_latest? {pair : String × String} {key : String} (h : pair ∈ log)
    (same : canonicalKey pair.1 = canonicalKey key) : ∃ other, latest? log key = some other := by
  rw [latest?, List.findRev?_eq_find?_reverse, ← Option.isSome_iff_exists, List.find?_isSome]
  exact ⟨pair, List.mem_reverse.mpr h, decide_eq_true same⟩

/-- A filter that goes by canonical keys keeps the latest pair of a key or all of them out. -/
theorem latest?_filter (keep : String → Bool) (log : List (String × String)) (key : String) :
    latest? (log.filter fun pair => keep (canonicalKey pair.1)) key =
      if keep (canonicalKey key) then latest? log key else none := by
  rw [latest?, List.findRev?_eq_find?_reverse, ← List.filter_reverse, List.find?_filter]
  by_cases kept : keep (canonicalKey key) = true
  · rw [if_pos kept, latest?, List.findRev?_eq_find?_reverse]
    -- A pair of the key passes as the key does, so the filter tests nothing new.
    refine congrArg (log.reverse.find? ·) (funext fun pair => ?_)
    by_cases same : canonicalKey pair.1 = canonicalKey key <;> simp [same, kept]
  · rw [if_neg kept, List.find?_eq_none]
    intro pair _ found
    obtain ⟨passed, same⟩ := of_decide_eq_true found
    exact kept (of_decide_eq_true same ▸ passed)

/-! ## Insertions in a row -/

theorem insertAll_concat (set : PropertySet) (log : List (String × String))
    (pair : String × String) :
    set.insertAll (log ++ [pair]) = (set.insertAll log).insert pair.1 pair.2 := by
  simp [insertAll]

theorem insertAll_append (set : PropertySet) (log more : List (String × String)) :
    set.insertAll (log ++ more) = (set.insertAll log).insertAll more := by
  simp [insertAll]

theorem entries_insertAll (set : PropertySet) (log : List (String × String)) :
    (set.insertAll log).entries =
      Keyed.insertAll (log.map fun pair => (canonicalKey pair.1, ⟨pair.1, pair.2⟩))
        set.entries := by
  induction log generalizing set with
  | nil => rfl
  | cons pair rest ih => exact ih (set.insert pair.1 pair.2)

/-- Of pairs inserted one after another the latest one answers. -/
theorem find?_insertAll (log : List (String × String)) (key : String) :
    (empty.insertAll log).find? key = (latest? log key).map fun pair => ⟨pair.1, pair.2⟩ := by
  induction log using List.reverseRecOn with
  | nil => rfl
  | append_singleton log pair ih =>
    rw [insertAll_concat, find?_insert, latest?_concat, ih]
    split
    · rfl
    · rfl

theorem get?_insertAll (log : List (String × String)) (key : String) :
    (empty.insertAll log).get? key = (latest? log key).map (·.2) := by
  rw [get?, find?_insertAll, Option.map_map]
  rfl

/-- An insertion may be made into the set on top. -/
theorem merge_insert (set top : PropertySet) (key value : String) :
    set.merge (top.insert key value) = (set.merge top).insert key value := by
  refine ext (Keyed.eq_of_lookup (set.merge (top.insert key value)).ordered
    ((set.merge top).insert key value).ordered fun other => ?_)
  show Keyed.lookup other (Keyed.insertAll (top.insert key value).entries set.entries) =
    Keyed.lookup other (Keyed.insert _ _ (Keyed.insertAll top.entries set.entries))
  rw [Keyed.lookup_insertAll (top.insert key value).ordered, insert, Keyed.lookup_insert,
    Keyed.lookup_insert, Keyed.lookup_insertAll top.ordered]
  split
  · rfl
  · rfl

/-- Insertions into a set are the same as the set of them laid on top. -/
theorem insertAll_eq_merge (set : PropertySet) (log : List (String × String)) :
    set.insertAll log = set.merge (empty.insertAll log) := by
  induction log using List.reverseRecOn with
  | nil => rfl
  | append_singleton log pair ih => rw [insertAll_concat, insertAll_concat, merge_insert, ih]

/-- A merge inserts the pairs of the set on top. -/
theorem merge_eq_insertAll (set : PropertySet) (h : top.Consistent) :
    set.merge top = set.insertAll top.pairs := by
  have same : top.pairs.map (fun pair => (canonicalKey pair.1, (⟨pair.1, pair.2⟩ : Property))) =
      top.entries := by
    rw [pairs, toList, List.map_map, List.map_map]
    refine (List.map_congr_left fun entry hentry => ?_).trans (List.map_id _)
    exact Prod.ext (h entry hentry).symm rfl
  refine ext ?_
  rw [entries_insertAll, same]
  rfl

/-! ## What a consistent set lists -/

theorem mem_pairs_iff (h : set.Consistent) {pair : String × String} :
    pair ∈ set.pairs ↔ set.find? pair.1 = some ⟨pair.1, pair.2⟩ := by
  rw [find?, Keyed.lookup_eq_some_iff set.ordered, pairs, toList]
  simp only [List.map_map, List.mem_map, Function.comp_apply]
  constructor
  · rintro ⟨entry, hentry, rfl⟩
    exact h entry hentry ▸ hentry
  · intro hmem
    exact ⟨_, hmem, rfl⟩

/-- The canonical keys of what is listed are the ones under which it is kept. -/
theorem map_canonicalKey_pairs (h : set.Consistent) :
    (set.pairs.map fun pair => canonicalKey pair.1) = set.entries.map (·.1) := by
  rw [pairs, toList, List.map_map, List.map_map]
  exact List.map_congr_left fun entry hentry => (h entry hentry).symm

/-! ## Sets refine their logs -/

namespace Logged

theorem reachable (h : Logged set log) : set.Reachable := by
  induction h with
  | empty => exact .empty
  | insert key value _ ih => exact ih.insert key value
  | merge _ htop ih => exact ih.merge htop

/-- A set that a log makes holds what inserting the pairs of the log one after another leaves. -/
theorem eq_insertAll (h : Logged set log) : set = PropertySet.empty.insertAll log := by
  induction h with
  | empty => rfl
  | insert key value _ ih => rw [insertAll_concat, ← ih]
  | merge _ htop ih => rw [insertAll_append, ← ih, merge_eq_insertAll _ htop.consistent]

theorem find?_eq (h : Logged set log) (key : String) :
    set.find? key = (latest? log key).map fun pair => ⟨pair.1, pair.2⟩ := by
  rw [h.eq_insertAll, find?_insertAll]

theorem mem_pairs_iff (h : Logged set log) {pair : String × String} :
    pair ∈ set.pairs ↔ latest? log pair.1 = some pair := by
  rw [PropertySet.mem_pairs_iff h.reachable.consistent, h.find?_eq]
  constructor
  · intro hfound
    obtain ⟨other, hother, hsame⟩ := Option.map_eq_some_iff.mp hfound
    obtain ⟨hkey, hvalue⟩ := Property.mk.inj hsame
    rw [hother, Prod.ext hkey hvalue]
  · intro hlatest
    rw [hlatest]
    rfl

/-- The keys of a set are the canonical forms of those in its log. -/
theorem mem_keys_iff (h : Logged set log) {canonical : String} :
    canonical ∈ set.entries.map (·.1) ↔ canonical ∈ log.map fun pair => canonicalKey pair.1 := by
  rw [← map_canonicalKey_pairs h.reachable.consistent]
  constructor
  · intro hmem
    obtain ⟨pair, hpair, rfl⟩ := List.mem_map.mp hmem
    exact List.mem_map_of_mem (mem_of_latest? (h.mem_pairs_iff.mp hpair))
  · intro hmem
    obtain ⟨pair, hpair, rfl⟩ := List.mem_map.mp hmem
    obtain ⟨latest, hlatest⟩ := exists_latest? hpair rfl
    have same := canonicalKey_of_latest? hlatest
    have listed : latest ∈ set.pairs := h.mem_pairs_iff.mpr (latest?_congr same ▸ hlatest)
    exact same ▸ List.mem_map_of_mem listed

theorem size_eq (h : Logged set log) :
    set.size = (log.map fun pair => canonicalKey pair.1).dedup.length := by
  have distinct : (set.entries.map (·.1)).Nodup := Keyed.nodup_keys set.ordered
  have same : (set.entries.map (·.1)).Perm (log.map fun pair => canonicalKey pair.1).dedup := by
    rw [List.perm_ext_iff_of_nodup distinct (List.nodup_dedup _)]
    intro canonical
    rw [h.mem_keys_iff, List.mem_dedup]
  rw [← same.length_eq, List.length_map]
  rfl

theorem existsUnique_pair (h : Logged set log) {pair : String × String} (hpair : pair ∈ log) :
    ∃! other, other ∈ set.pairs ∧ canonicalKey other.1 = canonicalKey pair.1 := by
  obtain ⟨latest, hlatest⟩ := exists_latest? hpair rfl
  have same := canonicalKey_of_latest? hlatest
  refine ⟨latest, ⟨h.mem_pairs_iff.mpr (latest?_congr same ▸ hlatest), same⟩, ?_⟩
  rintro other ⟨hother, hsame⟩
  have := h.mem_pairs_iff.mp hother
  rw [latest?_congr hsame, hlatest] at this
  exact (Option.some.inj this).symm

theorem pairwise_pairs (h : Logged set log) :
    (set.pairs.map fun pair => Utf8.encodeText (canonicalKey pair.1)).Pairwise (· < ·) := by
  have increasing : (set.entries.map (·.1)).Pairwise (· < ·) := List.pairwise_map.mpr set.ordered
  rw [← map_canonicalKey_pairs h.reachable.consistent, List.pairwise_map] at increasing
  exact List.pairwise_map.mpr (increasing.imp Utf8.encodeText_lt_encodeText)

end Logged

/-- Properties are always kept under the canonical forms of their spellings, and a set that is made
by insertions and merges answers every question as the log of them does. -/
theorem refinesLog_of_logged :
    (∀ set, Reachable set → set.Consistent) ∧ ∀ set log, Logged set log → set.RefinesLog log := by
  refine ⟨fun set reachable => reachable.consistent, fun set log h => ?_⟩
  have value (key : String) : set.get? key = (latest? log key).map (·.2) := by
    rw [get?, h.find?_eq, Option.map_map]
    rfl
  exact {
    value
    spelling := fun key => by
      rw [sourceKey?, h.find?_eq, Option.map_map]
      rfl
    membership := fun key => by rw [contains, h.find?_eq, Option.isSome_map]
    replacement := by
      intro key replaced
      rw [replace_eq]
      exact ⟨value key, h.insert key replaced⟩
    size := h.size_eq
    listed := fun pair => h.mem_pairs_iff
    unique := fun pair hpair => h.existsUnique_pair hpair
    order := h.pairwise_pairs }

namespace Sample

/-- An environment that sets the virtual host. -/
def environment : PropertySet :=
  .ofEnvironment "rabbitmq" [("PATH", "/bin"), ("RABBITMQ__VIRTUALHOST", "/two")]

/-- Two properties with an environment on top that spells one of them in another way. -/
def layered : PropertySet :=
  ((empty.insert "rabbitmq.virtual-host" "/one").insert "rabbitmq.port" "5673").merge environment

/-- What was inserted, the environment last. -/
def insertions : List (String × String) :=
  [("rabbitmq.virtual-host", "/one"), ("rabbitmq.port", "5673"), ("rabbitmq.virtualhost", "/two")]

theorem logged_layered : Logged layered insertions := by
  have listed : environment.pairs = [("rabbitmq.virtualhost", "/two")] := by decide +kernel
  have base : Logged ((empty.insert "rabbitmq.virtual-host" "/one").insert "rabbitmq.port" "5673")
      [("rabbitmq.virtual-host", "/one"), ("rabbitmq.port", "5673")] :=
    (Logged.empty.insert _ _).insert _ _
  have laid : Logged layered _ := base.merge (.ofEnvironment _ _)
  rwa [listed] at laid

end Sample

theorem refinesLog_sample :
    Logged Sample.layered Sample.insertions ∧ Sample.layered.Consistent ∧
      Sample.layered.RefinesLog Sample.insertions ∧
        Sample.layered.pairs = [("rabbitmq.port", "5673"), ("rabbitmq.virtualhost", "/two")] :=
  ⟨Sample.logged_layered, refinesLog_of_logged.1 _ Sample.logged_layered.reachable,
    refinesLog_of_logged.2 _ _ Sample.logged_layered, by decide +kernel⟩

end BrokerWiring.PropertySet
