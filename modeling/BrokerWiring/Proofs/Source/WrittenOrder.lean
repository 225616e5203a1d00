import BrokerWiring.Proofs.Json.Ways
import BrokerWiring.Proofs.Property.Log
import BrokerWiring.Proofs.Source.Layers

/-!
# Which leaf of a file counts

Several leaves of a document may spell one key: members of one object, or a member whose name has a
dot in it and one of an object below. The order of the text does not decide between them. Of the
members with one name the last is left, and of the leaves that are left the one whose way is
greatest counts, names compared one after another (`countsGreatest_of_ofFile`). So the leaf that is
written last may lose to an earlier one (`not_laterWins_sample`); it counts where names come once
and the leaves of each key are written in the order of their ways.
-/

namespace BrokerWiring

namespace Property

variable {document : Json} {key : String} {leaf : List String × String}

/-- The last leaf of a key on a walk through a document. Where the document is taken as it is
written, no leaf of the key is written later. -/
def lastLeaf? (document : Json) (key : String) : Option (List String × String) :=
  (leafPaths document).findRev? fun leaf => canonicalKey (pathKey leaf.1) = canonicalKey key

/-- A leaf counts for a key: it stands at the end of the greatest of the ways that spell the key and
end in a text. -/
structure Prevails (document : Json) (key : String) (leaf : List String × String) : Prop where
  stands : document.textAt? leaf.1 = some leaf.2
  spells : canonicalKey (pathKey leaf.1) = canonicalKey key
  greatest : ∀ way text, document.textAt? way = some text →
    canonicalKey (pathKey way) = canonicalKey key → way ≠ leaf.1 → way < leaf.1

/-- The leaves of each key come in the order of their ways. -/
def Ascends (document : Json) : Prop :=
  (leafPaths document).Pairwise fun leaf later =>
    canonicalKey (pathKey leaf.1) = canonicalKey (pathKey later.1) → leaf.1 < later.1

/-- No more than one leaf counts for a key. -/
theorem Prevails.unique {other : List String × String} (h : Prevails document key leaf)
    (hother : Prevails document key other) : leaf = other := by
  have way : leaf.1 = other.1 := by
    by_contra differ
    have below := hother.greatest _ _ h.stands h.spells differ
    have above := h.greatest _ _ hother.stands hother.spells (Ne.symm differ)
    exact List.lt_asymm below above
  have text : some leaf.2 = some other.2 := by rw [← h.stands, way, hother.stands]
  exact Prod.ext way (Option.some.inj text)

theorem prevails_of_lastLeaf? (once : document.NamesOnce) (ascends : Ascends document)
    (h : lastLeaf? document key = some leaf) : Prevails document key leaf := by
  rw [lastLeaf?, List.findRev?_eq_find?_reverse, List.find?_eq_some_iff_append] at h
  obtain ⟨spells, later, before, split, others⟩ := h
  have hspells : canonicalKey (pathKey leaf.1) = canonicalKey key := of_decide_eq_true spells
  have hmem (other : List String × String) : other ∈ leafPaths document ↔
      other ∈ later ++ leaf :: before := by
    rw [← split, List.mem_reverse]
  have hleaf : leaf ∈ leafPaths document := (hmem leaf).mpr (by simp)
  have ordered := List.pairwise_reverse.mpr ascends
  rw [split, List.pairwise_append, List.pairwise_cons] at ordered
  refine ⟨(mem_leafPaths_iff once).mp hleaf, hspells, fun way text stands same differ => ?_⟩
  rcases List.mem_append.mp ((hmem (way, text)).mp ((mem_leafPaths_iff once).mpr stands)) with
    behind | at_or_before
  · -- Behind the last leaf of the key there is none.
    have absent := others _ behind
    simp [same] at absent
  · rcases List.mem_cons.mp at_or_before with rfl | front
    · exact absurd rfl differ
    · exact ordered.2.1.1 _ front (same.trans hspells.symm)

/-- Where names come once and leaves of one key in the order of their ways, the last leaf counts. -/
theorem lastLeaf?_eq_some_iff (once : document.NamesOnce) (ascends : Ascends document) :
    lastLeaf? document key = some leaf ↔ Prevails document key leaf := by
  refine ⟨prevails_of_lastLeaf? once ascends, fun h => ?_⟩
  have hleaf : leaf ∈ leafPaths document := (mem_leafPaths_iff once).mpr h.stands
  obtain ⟨last, hlast⟩ : ∃ last, lastLeaf? document key = some last :=
    Json.exists_findRev? hleaf (decide_eq_true h.spells)
  rw [hlast, (prevails_of_lastLeaf? once ascends hlast).unique h]

/-- Where the names are in order, so are the leaves. -/
theorem Ascends.of_tidy (tidy : document.Tidy) : Ascends document := by
  refine List.Pairwise.imp ?_ (pairwise_leafPaths tidy)
  intro leaf later hlt _
  exact hlt

/-- The same leaves count in a document and in its value. -/
theorem prevails_value_iff : Prevails document.value key leaf ↔ Prevails document key leaf := by
  constructor
  · rintro ⟨stands, spells, greatest⟩
    simp only [Json.textAt?_value] at stands greatest
    exact ⟨stands, spells, greatest⟩
  · rintro ⟨stands, spells, greatest⟩
    simp only [← Json.textAt?_value document] at stands greatest
    exact ⟨stands, spells, greatest⟩

end Property

open Property (canonicalKey pathKey leafPaths lastLeaf? Prevails Ascends)

namespace PropertySet

/-- A key has the value and the spelling of its last leaf. -/
def LaterWins (set : PropertySet) (document : Json) : Prop :=
  ∀ key leaf, lastLeaf? document key = some leaf →
    set.get? key = some leaf.2 ∧ set.sourceKey? key = some (pathKey leaf.1)

/-- A set has its properties from a document, the leaf with the greatest way for each key. -/
structure CountsGreatest (set : PropertySet) (document : Json) : Prop where
  /-- What a key finds is the leaf that counts for it, and nothing if there is none. -/
  finds : ∀ key property, set.find? key = some property ↔
    ∃ leaf, Prevails document key leaf ∧ property = ⟨pathKey leaf.1, leaf.2⟩
  /-- The last leaf wins for every key just if what counts for the key has its spelling and text. -/
  later : set.LaterWins document ↔ ∀ key last, lastLeaf? document key = some last →
    ∃ leaf, Prevails document key leaf ∧ pathKey leaf.1 = pathKey last.1 ∧ leaf.2 = last.2
  /-- It does where names come once and the leaves of each key in the order of their ways. -/
  ascending : document.NamesOnce → Ascends document → set.LaterWins document

theorem find?_ofDocument (document : Json) (key : String) :
    (ofDocument document).find? key =
      (lastLeaf? document key).map fun leaf => ⟨pathKey leaf.1, leaf.2⟩ := by
  rw [ofDocument_eq_insertAll, find?_insertAll, latest?, lastLeaf?,
    List.findRev?_eq_find?_reverse, List.findRev?_eq_find?_reverse, ← List.map_reverse,
    List.find?_map, Option.map_map]
  rfl

theorem find?_ofDocument_value (document : Json) (key : String) (property : Property) :
    (ofDocument document.value).find? key = some property ↔
      ∃ leaf, Prevails document key leaf ∧ property = ⟨pathKey leaf.1, leaf.2⟩ := by
  have tidy := Json.tidy_value document
  rw [find?_ofDocument, Option.map_eq_some_iff]
  refine exists_congr fun leaf => ?_
  rw [Property.lastLeaf?_eq_some_iff tidy.namesOnce (.of_tidy tidy), Property.prevails_value_iff,
    eq_comm (a := property)]

/-- What a document as it is written sets. -/
theorem countsGreatest_ofDocument_value (document : Json) :
    (ofDocument document.value).CountsGreatest document := by
  have finds := find?_ofDocument_value document
  -- What is found for a key is the pair of its spelling and its value.
  have found (key spelling value : String) :
      (ofDocument document.value).get? key = some value ∧
          (ofDocument document.value).sourceKey? key = some spelling ↔
        (ofDocument document.value).find? key = some ⟨spelling, value⟩ := by
    rw [get?, sourceKey?]
    cases (ofDocument document.value).find? key with
    | none => simp
    | some property =>
      obtain ⟨spelled, kept⟩ := property
      simp [and_comm]
  refine ⟨finds, ?_, fun once ascends key leaf hleaf => ?_⟩
  · refine forall_congr' fun key => forall_congr' fun last => imp_congr_right fun _ => ?_
    rw [found, finds]
    refine exists_congr fun leaf => and_congr_right fun _ => ?_
    rw [Property.mk.injEq, eq_comm, eq_comm (a := last.2)]
  · rw [found, finds]
    exact ⟨leaf, (Property.lastLeaf?_eq_some_iff once ascends).mp hleaf, rfl⟩

end PropertySet

namespace Source

/-- The document in a file, as it is written. -/
def written? (files : Files) (path : String) : Option Json :=
  (files.readText path).toOption.bind fun text => (Json.written (Utf8.encodeText text)).toOption

/-- The properties of a file are those of the document that is written in it. -/
theorem ofFile_eq_ok_iff {files : Files} {path : String} {set : PropertySet} :
    ofFile files path = .ok set ↔
      ∃ document, written? files path = some document ∧ set = .ofDocument document.value := by
  rw [ofFile, written?]
  cases files.readText path with
  | error failure => simp [Except.toOption]
  | ok text =>
    cases hdocument : Json.written (Utf8.encodeText text) with
    | error fault => simp [Except.toOption, Json.read, Except.map, hdocument]
    | ok document => simp [Except.toOption, Json.read, Except.map, hdocument, eq_comm]

end Source

/-- However the members of a file are named and placed, the leaf with the greatest way counts for
each key. -/
theorem PropertySet.countsGreatest_of_ofFile {files : Files} {path : String} {set : PropertySet}
    (h : Source.ofFile files path = .ok set) :
    ∃ document, Source.written? files path = some document ∧ set.CountsGreatest document := by
  obtain ⟨document, written, rfl⟩ := Source.ofFile_eq_ok_iff.mp h
  exact ⟨document, written, countsGreatest_ofDocument_value document⟩

namespace Source.Sample

/-- One file with a text in it. -/
def fileOf (text : String) : Files where
  nodes := [(["work", "c.json"], .file (Utf8.encodeText text))]
  current := ["work"]

/-- A document that sets the virtual host twice, in two spellings. -/
def respelled : Files := fileOf "\x7b\"virtual_host\":\"a\",\"virtualHost\":\"b\"\x7d"

/-- A document that sets the host in an object and behind a dot, and gives the port twice. -/
def mixed : Files :=
  fileOf "\x7b\"mq.host\":\"a\",\"mq\":\x7b\"host\":\"b\"\x7d,\"port\":1,\"port\":2\x7d"

end Source.Sample

/-- The host is the one behind the dot, though it comes first; the port is the second one. -/
theorem PropertySet.countsGreatest_sample :
    ∃ document set, Source.written? Source.Sample.mixed "c.json" = some document ∧
      Source.ofFile Source.Sample.mixed "c.json" = .ok set ∧ set.CountsGreatest document ∧
      leafPaths document =
        [(["mq.host"], "a"), (["mq", "host"], "b"), (["port"], "1"), (["port"], "2")] ∧
      set.pairs = [("mq.host", "a"), ("port", "2")] := by
  have read : Source.ofFile Source.Sample.mixed "c.json" =
      .ok ((empty.insert "mq.host" "a").insert "port" "2") := by decide +kernel
  have leaves : (Source.written? Source.Sample.mixed "c.json").map leafPaths =
      some [(["mq.host"], "a"), (["mq", "host"], "b"), (["port"], "1"), (["port"], "2")] := by
    decide +kernel
  obtain ⟨document, written, counts⟩ := countsGreatest_of_ofFile read
  rw [written] at leaves
  exact ⟨document, _, written, read, counts, Option.some.inj leaves, by decide +kernel⟩

/-- The virtual host that is written last loses to the one before it, whose name is greater. -/
theorem PropertySet.not_laterWins_sample :
    ∃ document set, Source.written? Source.Sample.respelled "c.json" = some document ∧
      Source.ofFile Source.Sample.respelled "c.json" = .ok set ∧
      lastLeaf? document "virtual_host" = some (["virtualHost"], "b") ∧
      set.get? "virtual_host" = some "a" ∧ ¬set.LaterWins document := by
  have read : Source.ofFile Source.Sample.respelled "c.json" =
      .ok (empty.insert "virtual_host" "a") := by decide +kernel
  have leaves : (Source.written? Source.Sample.respelled "c.json").map leafPaths =
      some [(["virtual_host"], "a"), (["virtualHost"], "b")] := by decide +kernel
  obtain ⟨document, written, hleaves⟩ := Option.map_eq_some_iff.mp leaves
  have last : lastLeaf? document "virtual_host" = some (["virtualHost"], "b") := by
    rw [lastLeaf?, hleaves]
    decide +kernel
  have kept : (empty.insert "virtual_host" "a").get? "virtual_host" = some "a" := by
    decide +kernel
  refine ⟨document, _, written, read, last, kept, fun wins => ?_⟩
  have won := (wins _ _ last).1
  rw [kept] at won
  exact absurd won (by decide)

end BrokerWiring
