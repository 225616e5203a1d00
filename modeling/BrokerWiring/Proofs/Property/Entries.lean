import Mathlib.Data.List.Forall2
import BrokerWiring.Proofs.Property.Log
import BrokerWiring.Proofs.Text.Slices
import BrokerWiring.Proofs.Text.Trimming

/-!
# Entries and what they set

An entry has a grammar of its own (`Spells`), and it is read as a key and a value just if it is
spelled so (`parseEntry_eq_some_iff`). The stored form of the text is cut behind the first separator
by its byte positions; no cut can fail, because none lies inside a character
(`parseStored_eq`). A list of entries is read one entry after another, so it is read in parts as
well: what the parts set is merged (`insertAll_eq_merge`), and the first malformed entry of all is
reported.
-/

namespace BrokerWiring

namespace Property

/-! ## Spelling -/

/-- An entry is a pair with one of the two separators in it. -/
def WrittenAs (pair : String × String) (entry : String) : Prop :=
  entry = pair.1 ++ "=" ++ pair.2 ∨ entry = pair.1 ++ ":" ++ pair.2

instance WrittenAs.decidable (pair : String × String) (entry : String) :
    Decidable (WrittenAs pair entry) :=
  inferInstanceAs (Decidable (_ ∨ _))

/-- No separator stands in a text. -/
def Unseparated (text : String) : Prop := ':' ∉ text.toList ∧ '=' ∉ text.toList

instance (text : String) : Decidable (Unseparated text) := inferInstanceAs (Decidable (_ ∧ _))

/-- An entry spells a key and a value: the value is what stands behind the first separator, the
key is what stands in front of it without the white space around it, and it is not empty. -/
structure Spells (entry key value : String) : Prop where
  split : ∃ front, WrittenAs (front, value) entry ∧ Unseparated front ∧ Text.TrimsTo front key
  filled : key ≠ ""

variable {entry front key value text : String}

theorem isSeparator_iff {c : Char} : isSeparator c = true ↔ c = ':' ∨ c = '=' := by
  simp [isSeparator]

theorem unseparated_iff : Unseparated text ↔ ∀ c ∈ text.toList, isSeparator c = false := by
  constructor
  · rintro ⟨colon, equals⟩ c hc
    rw [Bool.eq_false_iff, ne_eq, isSeparator_iff]
    rintro (rfl | rfl)
    · exact colon hc
    · exact equals hc
  · exact fun h => ⟨fun hc => absurd (h _ hc) (by decide), fun hc => absurd (h _ hc) (by decide)⟩

theorem writtenAs_iff : WrittenAs (front, value) entry ↔
    ∃ separator, isSeparator separator = true ∧
      entry = front ++ String.ofList (separator :: value.toList) := by
  have joined (separator : Char) : front ++ String.ofList (separator :: value.toList) =
      front ++ String.singleton separator ++ value := by
    rw [← String.toList_inj]
    simp
  constructor
  · rintro (rfl | rfl)
    · exact ⟨'=', rfl, (joined '=').symm⟩
    · exact ⟨':', rfl, (joined ':').symm⟩
  · rintro ⟨separator, h, rfl⟩
    rcases isSeparator_iff.mp h with rfl | rfl
    · exact .inr (joined ':')
    · exact .inl (joined '=')

/-- An entry has a first separator or none at all. -/
theorem split_or_unseparated (entry : String) :
    (∃ front value, WrittenAs (front, value) entry ∧ Unseparated front) ∨ Unseparated entry := by
  cases hrest : entry.toList.dropWhile (!isSeparator ·) with
  | nil =>
    right
    rw [unseparated_iff]
    intro c hc
    simpa using List.dropWhile_eq_nil_iff.mp hrest c hc
  | cons separator value =>
    left
    have met : isSeparator separator = true := by
      simpa [hrest] using List.head?_dropWhile_not (!isSeparator ·) entry.toList
    have passed : ∀ c ∈ entry.toList.takeWhile (!isSeparator ·), isSeparator c = false := by
      intro c hc
      simpa using List.all_eq_true.mp List.all_takeWhile c hc
    refine ⟨String.ofList (entry.toList.takeWhile (!isSeparator ·)), String.ofList value,
      writtenAs_iff.mpr ⟨separator, met, ?_⟩, unseparated_iff.mpr (by simpa using passed)⟩
    rw [← String.toList_inj, String.toList_append, String.toList_ofList, String.toList_ofList,
      String.toList_ofList, ← hrest, List.takeWhile_append_dropWhile]

/-! ## Reading -/

theorem parseEntry_of_unseparated (h : Unseparated entry) : parseEntry entry = none := by
  have passed : entry.toList.dropWhile (!isSeparator ·) = [] := by
    rw [List.dropWhile_eq_nil_iff]
    intro c hc
    simp [unseparated_iff.mp h c hc]
  rw [parseEntry, passed]

/-- The characters in front of the first separator, and it with those behind it. -/
theorem takeWhile_dropWhile_of_split {separator : Char} (hfront : Unseparated front)
    (h : isSeparator separator = true) (rest : List Char) :
    (front.toList ++ separator :: rest).takeWhile (!isSeparator ·) = front.toList ∧
      (front.toList ++ separator :: rest).dropWhile (!isSeparator ·) = separator :: rest := by
  have passed : ∀ c ∈ front.toList, (!isSeparator c) = true := fun c hc => by
    rw [unseparated_iff.mp hfront c hc]
    rfl
  rw [List.takeWhile_append_of_pos passed, List.dropWhile_append_of_pos passed]
  simp [h]

/-- What is read of an entry with a first separator. -/
theorem parseEntry_of_split (hentry : WrittenAs (front, value) entry) (hfront : Unseparated front) :
    parseEntry entry =
      if (Text.trim front).isEmpty then none else some (Text.trim front, value) := by
  obtain ⟨separator, h, rfl⟩ := writtenAs_iff.mp hentry
  obtain ⟨taken, left⟩ := takeWhile_dropWhile_of_split hfront h value.toList
  rw [parseEntry, String.toList_append, String.toList_ofList, left, taken]
  simp only [String.ofList_toList]

/-- Entries are read as what they spell. -/
theorem parseEntry_eq_some_iff :
    parseEntry entry = some (key, value) ↔ Spells entry key value := by
  constructor
  · intro h
    rcases split_or_unseparated entry with ⟨front, behind, hentry, hfront⟩ | none
    · rw [parseEntry_of_split hentry hfront] at h
      split at h
      · cases h
      · rename_i filled
        obtain ⟨rfl, rfl⟩ := Prod.mk.inj (Option.some.inj h)
        exact ⟨⟨front, hentry, hfront, Text.trimsTo_trim front⟩,
          fun empty => filled (String.isEmpty_iff.mpr empty)⟩
    · rw [parseEntry_of_unseparated none] at h
      cases h
  · rintro ⟨⟨front, hentry, hfront, trimmed⟩, filled⟩
    rw [parseEntry_of_split hentry hfront, trimmed.trim_eq, if_neg (by simpa using filled)]

/-! ## Reading by byte positions -/

/-- The byte position of the first separator. -/
def separatorAt? (entry : String) : Option Nat :=
  if entry.toList.any isSeparator then
    some (Utf8.encode (entry.toList.takeWhile (!isSeparator ·))).length
  else none

/-- An entry as it is read in its stored form: it is cut at the position of the first separator,
and the rest one byte behind that. There is no result at all if a cut cannot be made. -/
def parseStored (entry : String) : Option (Option (String × String)) :=
  match separatorAt? entry with
  | none => some none
  | some position =>
    match Utf8.splitAt? entry position with
    | none => none
    | some (front, rest) =>
      let key := Text.trim front
      if key.isEmpty then some none
      else (Utf8.splitAt? rest 1).map fun (_, value) => some (key, value)

/-- Both cuts can be made, and what they give is read as from the characters. -/
theorem parseStored_eq (entry : String) : parseStored entry = some (parseEntry entry) := by
  rcases split_or_unseparated entry with ⟨front, value, hentry, hfront⟩ | none
  · rw [parseEntry_of_split hentry hfront]
    obtain ⟨separator, h, rfl⟩ := writtenAs_iff.mp hentry
    obtain ⟨taken, -⟩ := takeWhile_dropWhile_of_split hfront h value.toList
    have position : separatorAt? (front ++ String.ofList (separator :: value.toList)) =
        some (Utf8.encodeText front).length := by
      rw [separatorAt?, String.toList_append, String.toList_ofList, if_pos (by simp [h]), taken,
        Utf8.encodeText]
    have cut : Utf8.splitAt? (front ++ String.ofList (separator :: value.toList))
        (Utf8.encodeText front).length =
          some (front, String.ofList (separator :: value.toList)) :=
      Utf8.splitAt?_eq_some_iff.mpr ⟨rfl, rfl⟩
    -- Either separator is a single byte.
    have behind : Utf8.splitAt? (String.ofList (separator :: value.toList)) 1 =
        some (String.singleton separator, value) := by
      rw [Utf8.splitAt?_eq_some_iff]
      constructor
      · rw [← String.toList_inj]
        simp
      · rcases isSeparator_iff.mp h with rfl | rfl <;> rfl
    simp only [parseStored, position, cut, behind]
    split <;> rfl
  · have absent : entry.toList.any isSeparator = false := by
      simpa using unseparated_iff.mp none
    rw [parseEntry_of_unseparated none, parseStored, separatorAt?, absent]
    rfl

/-- What is made of one entry. -/
structure ReadsEntry (entry : String) : Prop where
  /-- It is read as a key and a value just if it spells them. -/
  read_iff : ∀ key value, parseEntry entry = some (key, value) ↔ Spells entry key value
  /-- It is malformed just if it spells nothing. -/
  malformed_iff : parseEntry entry = none ↔ ¬∃ key value, Spells entry key value
  /-- Read by byte positions it comes to the same, and no position lies inside a character. -/
  stored : parseStored entry = some (parseEntry entry)

theorem readsEntry (entry : String) : ReadsEntry entry where
  read_iff key value := parseEntry_eq_some_iff
  malformed_iff := by
    simp only [← parseEntry_eq_some_iff]
    cases parseEntry entry with
    | none => simp
    | some pair => simpa using ⟨pair.1, pair.2, rfl⟩
  stored := parseStored_eq entry

/-- The first separator counts, and the white space of the key does not. -/
example : parseEntry "\u2003é =a:b=c " = some ("é", "a:b=c ") ∧ parseEntry "\u3000=x" = none ∧
    parseEntry "é x" = none := by decide +kernel

end Property

/-! ## Lists of entries -/

namespace PropertySet

open Property (parseEntry ReadsEntry Spells)

variable {good entries : List String} {bad : String} {pairs : List (String × String)}

/-- Entries that are read set what they spell. -/
theorem ofEntriesInto_of_parsed (set : PropertySet)
    (h : List.Forall₂ (fun entry pair => parseEntry entry = some pair) entries pairs) :
    set.ofEntriesInto entries = .ok (set.insertAll pairs) := by
  induction h generalizing set with
  | nil => rfl
  | cons hentry _ ih =>
    rw [ofEntriesInto, hentry]
    exact ih _

theorem exists_parsed (h : ∀ entry ∈ entries, parseEntry entry ≠ none) :
    ∃ pairs, List.Forall₂ (fun entry pair => parseEntry entry = some pair) entries pairs := by
  induction entries with
  | nil => exact ⟨[], .nil⟩
  | cons entry rest ih =>
    obtain ⟨hentry, hrest⟩ := List.forall_mem_cons.mp h
    obtain ⟨pair, hpair⟩ := Option.ne_none_iff_exists'.mp hentry
    obtain ⟨pairs, hpairs⟩ := ih hrest
    exact ⟨pair :: pairs, .cons hpair hpairs⟩

theorem exists_ofEntriesInto (set : PropertySet) (h : ∀ entry ∈ entries, parseEntry entry ≠ none) :
    ∃ read, set.ofEntriesInto entries = .ok read := by
  obtain ⟨pairs, hpairs⟩ := exists_parsed h
  exact ⟨_, ofEntriesInto_of_parsed set hpairs⟩

theorem ofEntriesInto_append (set : PropertySet) (front behind : List String) :
    set.ofEntriesInto (front ++ behind) =
      set.ofEntriesInto front >>= fun base => base.ofEntriesInto behind := by
  induction front generalizing set with
  | nil => rfl
  | cons entry front ih =>
    rw [List.cons_append, ofEntriesInto, ofEntriesInto]
    cases parseEntry entry with
    | none => rfl
    | some pair => exact ih _

theorem ofEntriesInto_of_malformed (set : PropertySet) {rest : List String}
    (hgood : ∀ entry ∈ good, parseEntry entry ≠ none) (hbad : parseEntry bad = none) :
    set.ofEntriesInto (good ++ bad :: rest) =
      .error (.invalidValue bad "" "expected 'key=value' or 'key:value'") := by
  obtain ⟨pairs, hpairs⟩ := exists_parsed hgood
  rw [ofEntriesInto_append, ofEntriesInto_of_parsed _ hpairs]
  show ofEntriesInto _ (bad :: rest) = _
  rw [ofEntriesInto, hbad]

/-- Either all entries are read, or there is a first one that is malformed. -/
theorem parsed_or_malformed (entries : List String) :
    (∀ entry ∈ entries, parseEntry entry ≠ none) ∨
      ∃ good bad rest, entries = good ++ bad :: rest ∧
        (∀ entry ∈ good, parseEntry entry ≠ none) ∧ parseEntry bad = none := by
  cases hfind : entries.find? (parseEntry · = none) with
  | none => exact .inl (by simpa using hfind)
  | some bad =>
    obtain ⟨hbad, good, rest, hsplit, hgood⟩ := List.find?_eq_some_iff_append.mp hfind
    exact .inr ⟨good, bad, rest, hsplit, by simpa using hgood, by simpa using hbad⟩

/-- What is made of a list of entries. -/
structure CollectsEntries (entries : List String) : Prop where
  /-- It fails just if one of them is malformed. -/
  fails_iff : (∃ error, ofEntries entries = .error error) ↔
    ∃ entry ∈ entries, parseEntry entry = none
  /-- The error is for the first malformed one as the key, with an empty value. -/
  error_iff : ∀ error, ofEntries entries = .error error ↔
    ∃ good bad rest, entries = good ++ bad :: rest ∧
      (∀ entry ∈ good, parseEntry entry ≠ none) ∧ parseEntry bad = none ∧
        error = .invalidValue bad "" "expected 'key=value' or 'key:value'"
  /-- Else it sets what the entries spell, one after another. -/
  collected : ∀ pairs, List.Forall₂ (fun entry pair => Spells entry pair.1 pair.2) entries pairs →
    ofEntries entries = .ok (empty.insertAll pairs)
  /-- And the set of the whole is that of any first part with that of the other part on top. -/
  merged : (∀ entry ∈ entries, parseEntry entry ≠ none) →
    ∀ front behind, entries = front ++ behind →
      ∃ base top, ofEntries front = .ok base ∧ ofEntries behind = .ok top ∧
        ofEntries entries = .ok (base.merge top)

theorem ofEntries_eq_error_iff {error : ConfigError} : ofEntries entries = .error error ↔
    ∃ good bad rest, entries = good ++ bad :: rest ∧
      (∀ entry ∈ good, parseEntry entry ≠ none) ∧ parseEntry bad = none ∧
        error = .invalidValue bad "" "expected 'key=value' or 'key:value'" := by
  constructor
  · intro h
    rcases parsed_or_malformed entries with hall | ⟨good, bad, rest, rfl, hgood, hbad⟩
    · obtain ⟨pairs, hpairs⟩ := exists_parsed hall
      rw [ofEntries, ofEntriesInto_of_parsed _ hpairs] at h
      cases h
    · rw [ofEntries, ofEntriesInto_of_malformed _ hgood hbad] at h
      exact ⟨good, bad, rest, rfl, hgood, hbad, (Except.error.inj h).symm⟩
  · rintro ⟨good, bad, rest, rfl, hgood, hbad, rfl⟩
    exact ofEntriesInto_of_malformed _ hgood hbad

theorem collectsEntries (entries : List String) : CollectsEntries entries where
  fails_iff := by
    simp only [ofEntries_eq_error_iff]
    constructor
    · rintro ⟨_, good, bad, rest, rfl, -, hbad, -⟩
      exact ⟨bad, by simp, hbad⟩
    · rintro ⟨entry, hentry, malformed⟩
      rcases parsed_or_malformed entries with hall | ⟨good, bad, rest, hsplit, hgood, hbad⟩
      · exact absurd malformed (hall entry hentry)
      · exact ⟨_, good, bad, rest, hsplit, hgood, hbad, rfl⟩
  error_iff _ := ofEntries_eq_error_iff
  collected pairs h :=
    ofEntriesInto_of_parsed empty (h.imp fun _ _ => Property.parseEntry_eq_some_iff.mpr)
  merged := by
    rintro hall front behind rfl
    obtain ⟨hfront, hbehind⟩ := List.forall_mem_append.mp hall
    obtain ⟨base, hbase⟩ := exists_parsed hfront
    obtain ⟨top, htop⟩ := exists_parsed hbehind
    refine ⟨empty.insertAll base, empty.insertAll top, ofEntriesInto_of_parsed _ hbase,
      ofEntriesInto_of_parsed _ htop, ?_⟩
    rw [ofEntries, ofEntriesInto_append, ofEntriesInto_of_parsed _ hbase, ← insertAll_eq_merge]
    exact ofEntriesInto_of_parsed _ htop

/-- Every entry is read by its grammar, and every list of entries as a whole or in parts. -/
theorem entries_read_and_collected :
    (∀ entry, ReadsEntry entry) ∧ ∀ entries, CollectsEntries entries :=
  ⟨Property.readsEntry, collectsEntries⟩

end PropertySet

end BrokerWiring
