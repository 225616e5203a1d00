import BrokerWiring.Proofs.Property.Selection
import BrokerWiring.Proofs.Settings.Rendering

/-!
# A binding hangs on the known keys

Whatever a property set holds elsewhere, a binding reads the known keys below its scope alone. Two
sets with the same values there bind to the same settings, or fail with the same error but for the
spelling of the key that it names (`bind_same`). And none of the known keys is idle: for each of
them there are two sets that differ at no other key and bind to different settings
(`exists_needed`). So the list of the known keys is exact (`hangsOnKnownKeys`).
-/

namespace BrokerWiring

open Property (canonicalKey)
open Settings (Scoped below fullKey knownKeys)

/-! ## Outcomes up to spelling -/

/-- Two outcomes are the same, but for how an error spells the key that it names. -/
inductive SameUpToSpelling {α : Type} : Except ConfigError α → Except ConfigError α → Prop
  | ok (a : α) : SameUpToSpelling (.ok a) (.ok a)
  | error {key other : String} (value reason : String) : canonicalKey key = canonicalKey other →
      SameUpToSpelling (.error (.invalidValue key value reason))
        (.error (.invalidValue other value reason))

/-- Computations that go on in the same way stay the same. -/
theorem SameUpToSpelling.bind {α β : Type} {first second : Except ConfigError α}
    {next next' : α → Except ConfigError β} (h : SameUpToSpelling first second)
    (hnext : ∀ a, SameUpToSpelling (next a) (next' a)) :
    SameUpToSpelling (first >>= next) (second >>= next') := by
  cases h with
  | ok a => exact hnext a
  | error value reason same => exact .error value reason same

namespace Settings

/-! ## The known keys are enough -/

theorem canonicalKey_fullKey_congr (scope : String) {key other : String}
    (h : canonicalKey key = canonicalKey other) :
    canonicalKey (fullKey scope key) = canonicalKey (fullKey scope other) := by
  rw [fullKey, fullKey]
  split
  · exact h
  · rw [← String.toList_inj, Property.toList_canonicalKey_below,
      Property.toList_canonicalKey_below, h]

/-- However a key was spelled, an error names it by a spelling of the key below the scope. -/
theorem Scoped.canonicalKey_spelled {source : Scoped} (h : source.properties.Consistent)
    (key : String) :
    canonicalKey (fullKey source.scope ((source.properties.sourceKey? key).getD key)) =
      canonicalKey (fullKey source.scope key) := by
  apply canonicalKey_fullKey_congr
  rw [PropertySet.sourceKey?]
  cases hfind : source.properties.find? key with
  | none => rfl
  | some property => exact PropertySet.canonicalKey_of_find? h hfind

/-- The properties below one scope of two sets have the same values at the known keys. -/
structure Scoped.Matches (source other : Scoped) : Prop where
  scope_eq : source.scope = other.scope
  consistent : source.properties.Consistent ∧ other.properties.Consistent
  raw?_eq : ∀ key ∈ knownKeys, source.raw? key = other.raw? key

section

variable {source other : Scoped}

/-- Known keys are read alike. -/
theorem Scoped.Matches.read (h : source.Matches other) {α : Type}
    (form : String → Except String α) {key : String} (hkey : key ∈ knownKeys) :
    SameUpToSpelling (source.read form key) (other.read form key) := by
  unfold Scoped.read
  rw [h.raw?_eq key hkey]
  cases other.raw? key with
  | none => exact .ok none
  | some value =>
    cases hform : form value with
    | ok a =>
      simp only [hform]
      exact .ok (some a)
    | error reason =>
      simp only [hform]
      refine .error value reason ?_
      rw [Scoped.canonicalKey_spelled h.consistent.1, Scoped.canonicalKey_spelled h.consistent.2,
        h.scope_eq]

theorem connectionOf_same (h : source.Matches other) :
    SameUpToSpelling (connectionOf source) (connectionOf other) := by
  unfold connectionOf
  refine (h.read shortForm (by decide)).bind fun port? => ?_
  refine (h.read flagForm (by decide)).bind fun useSsl? => ?_
  refine (h.read shortForm (by decide)).bind fun heartbeat? => ?_
  -- What is left are the texts, which cannot fail.
  rw [h.raw?_eq "host" (by decide), h.raw?_eq "username" (by decide),
    h.raw?_eq "password" (by decide), h.raw?_eq "virtual_host" (by decide),
    h.raw?_eq "ssl.key_store" (by decide), h.raw?_eq "ssl.key_store_password" (by decide),
    h.raw?_eq "ssl.trust_store" (by decide), h.raw?_eq "ssl.trust_store_password" (by decide)]
  exact .ok _

theorem listenerOf_same (h : source.Matches other) :
    SameUpToSpelling (listenerOf source) (listenerOf other) := by
  unfold listenerOf
  refine (h.read flagForm (by decide)).bind fun autoStartup? => ?_
  refine (h.read modeForm (by decide)).bind fun acknowledgeMode? => ?_
  refine (h.read longForm (by decide)).bind fun concurrency? => ?_
  refine (h.read longForm (by decide)).bind fun maxConcurrency? => ?_
  refine (h.read shortForm (by decide)).bind fun prefetch? => ?_
  refine (h.read longForm (by decide)).bind fun transactionSize? => ?_
  exact .ok _

end

end Settings

/-- Sets with the same values at the known keys below a scope bind to the same, but for the spelling
of the key in an error. -/
theorem BrokerSettings.bind_same {set other : PropertySet} {scope : String}
    (hscope : canonicalKey scope ≠ "") (hset : set.Consistent) (hother : other.Consistent)
    (agree : ∀ key ∈ knownKeys,
      set.get? (scope ++ "." ++ key) = other.get? (scope ++ "." ++ key)) :
    SameUpToSpelling (bind set scope) (bind other scope) := by
  have matching : (below set scope).Matches (below other scope) := by
    constructor
    case scope_eq => rfl
    case consistent => exact ⟨hset.subset scope, hother.subset scope⟩
    case raw?_eq =>
      intro key hkey
      rw [Settings.raw?_below _ (.inr hscope), Settings.raw?_below _ (.inr hscope),
        Settings.fullKey_of_filled hscope]
      exact agree key hkey
  unfold bind
  refine (Settings.connectionOf_same matching).bind fun connection => ?_
  refine (Settings.listenerOf_same matching).bind fun listener => ?_
  refine (matching.read Settings.flagForm (by decide)).bind fun dynamic? => ?_
  exact .ok _

/-! ## Each known key is needed -/

namespace Settings

/-- Properties that show settings bind to them. -/
theorem bind_of_shows {set : PropertySet} {scope : String} {settings : BrokerSettings}
    (shown : (below set scope).Shows settings) (hhost : settings.connection.virtualHost ≠ "") :
    BrokerSettings.bind set scope = .ok settings := by
  rw [BrokerSettings.bind, connectionOf_of_shows shown hhost, listenerOf_of_shows shown]
  simp only [read_dynamic_of_shows shown]
  rfl

/-- Two settings differ in the field of a key and in no other. -/
structure DifferAt (key : String) (settings varied : BrokerSettings) : Prop where
  ne : settings ≠ varied
  hosted : settings.connection.virtualHost ≠ "" ∧ varied.connection.virtualHost ≠ ""
  own : ∃ field ∈ varied.fields, field.1 = key ∧ field.2.isSome = true
  others : ∀ field ∈ varied.fields, field.1 ≠ key → field ∈ settings.fields

/-- Setting the key of the field in which two settings differ leads from one to the other. -/
theorem shows_insert {set : PropertySet} {scope key : String} {settings varied : BrokerSettings}
    {value : FieldValue} (hscope : canonicalKey scope ≠ "") (h : DifferAt key settings varied)
    (hvalue : (key, some value) ∈ varied.fields) (shown : (below set scope).Shows settings) :
    (below (set.insert (scope ++ "." ++ key) value.plain) scope).Shows varied := by
  intro field hfield
  rw [← fullKey_of_filled hscope, raw?_below _ (.inr hscope), PropertySet.get?,
    PropertySet.find?_insert]
  split
  · rename_i same
    obtain rfl := BrokerSettings.eq_of_canonicalKey hfield hvalue same
    exact .some value.writtenAs_plain
  · rename_i differ
    have kept := shown field (h.others field hfield fun same => differ (by rw [same]))
    rwa [raw?_below _ (.inr hscope)] at kept

/-- For each known key, settings that differ from the standard ones in its field. -/
def variations : List (String × BrokerSettings) :=
  [("host", { connection := { host := "mq" } }),
    ("port", { connection := { port := 5671 } }),
    ("username", { connection := { username := "alice" } }),
    ("password", { connection := { password := "secret" } }),
    ("virtual_host", { connection := { virtualHost := "/orders" } }),
    ("dynamic", { dynamic := false }),
    ("requested_heartbeat", { connection := { heartbeat := 60 } }),
    ("ssl.enabled", { connection := { useSsl := true } }),
    ("ssl.key_store", { connection := { keyStore? := some "key.p12" } }),
    ("ssl.key_store_password", { connection := { keyStorePassword? := some "secret" } }),
    ("ssl.trust_store", { connection := { trustStore? := some "trust.pem" } }),
    ("ssl.trust_store_password", { connection := { trustStorePassword? := some "secret" } }),
    ("listener.auto_startup", { listener := { autoStartup := false } }),
    ("listener.acknowledge_mode", { listener := { acknowledgeMode := .manual } }),
    ("listener.concurrency", { listener := { concurrency? := some 1 } }),
    ("listener.max_concurrency", { listener := { maxConcurrency? := some 1 } }),
    ("listener.prefetch", { listener := { prefetch? := some 1 } }),
    ("listener.transaction_size", { listener := { transactionSize? := some 1 } })]

theorem map_fst_variations : variations.map (·.1) = knownKeys := rfl

theorem differAt_of_mem {variation : String × BrokerSettings} (h : variation ∈ variations) :
    DifferAt variation.1 {} variation.2 := by
  have ne : ∀ variation ∈ variations, {} ≠ variation.2 := by decide +kernel
  have hosted : ∀ variation ∈ variations, variation.2.connection.virtualHost ≠ "" := by
    decide +kernel
  have own : ∀ variation ∈ variations, ∃ field ∈ variation.2.fields,
      field.1 = variation.1 ∧ field.2.isSome = true := by decide +kernel
  have others : ∀ variation ∈ variations, ∀ field ∈ variation.2.fields,
      field.1 ≠ variation.1 → field ∈ ({} : BrokerSettings).fields := by decide +kernel
  exact ⟨ne _ h, ⟨by decide, hosted _ h⟩, own _ h, others _ h⟩

/-- For each known key there are settings that differ in its field alone. -/
theorem exists_differAt {key : String} (hkey : key ∈ knownKeys) :
    ∃ settings varied, DifferAt key settings varied := by
  rw [← map_fst_variations] at hkey
  obtain ⟨variation, hmem, rfl⟩ := List.mem_map.mp hkey
  exact ⟨_, _, differAt_of_mem hmem⟩

end Settings

/-- Two sets have the same properties at all keys but one. -/
def PropertySet.SameBut (key : String) (set other : PropertySet) : Prop :=
  ∀ asked, canonicalKey asked ≠ canonicalKey key → set.find? asked = other.find? asked

theorem PropertySet.Reachable.insertAll {set : PropertySet} (h : set.Reachable)
    (log : List (String × String)) : (set.insertAll log).Reachable := by
  induction log generalizing set with
  | nil => exact h
  | cons pair rest ih => exact ih (h.insert pair.1 pair.2)

namespace BrokerSettings

/-- For each known key there are sets that differ there alone and bind to different settings. -/
theorem exists_needed {scope key : String} (hscope : canonicalKey scope ≠ "")
    (hkey : key ∈ knownKeys) :
    ∃ set other settings varied, set.Reachable ∧ other.Reachable ∧
      set.SameBut (scope ++ "." ++ key) other ∧ bind set scope = .ok settings ∧
        bind other scope = .ok varied ∧ settings ≠ varied := by
  obtain ⟨settings, varied, differ⟩ := Settings.exists_differAt hkey
  obtain ⟨⟨_, value?⟩, hfield, rfl, hset⟩ := differ.own
  obtain ⟨value, rfl⟩ := Option.isSome_iff_exists.mp hset
  -- One set renders the settings. The other has the key of the field set anew on top of that.
  have reachable : (PropertySet.empty.insertAll (settings.rendering scope)).Reachable :=
    PropertySet.Reachable.empty.insertAll _
  have shown := Settings.shows_of_renders (.inr hscope) (settings.renders_rendering scope)
  have varies := Settings.shows_insert hscope differ hfield shown
  refine ⟨_, _, settings, varied, reachable, reachable.insert _ _, ?_,
    Settings.bind_of_shows shown differ.hosted.1, Settings.bind_of_shows varies differ.hosted.2,
    differ.ne⟩
  intro asked apart
  rw [PropertySet.find?_insert, if_neg apart]

/-- The known keys are just what a binding below a scope hangs on. -/
structure HangsOnKnownKeys (scope : String) : Prop where
  /-- Nothing else counts, and neither does the spelling, but for naming a key in an error. -/
  enough : ∀ set other : PropertySet, set.Reachable → other.Reachable →
    (∀ key ∈ knownKeys, set.get? (scope ++ "." ++ key) = other.get? (scope ++ "." ++ key)) →
      SameUpToSpelling (bind set scope) (bind other scope)
  /-- Each of them counts. -/
  needed : ∀ key ∈ knownKeys, ∃ set other settings varied, set.Reachable ∧ other.Reachable ∧
    set.SameBut (scope ++ "." ++ key) other ∧ bind set scope = .ok settings ∧
      bind other scope = .ok varied ∧ settings ≠ varied

/-- A binding hangs on the known keys below its scope, on all of them and on nothing else. -/
theorem hangsOnKnownKeys {scope : String} (hscope : canonicalKey scope ≠ "") :
    HangsOnKnownKeys scope := by
  constructor
  case enough =>
    intro set other hset hother agree
    exact bind_same hscope hset.consistent hother.consistent agree
  case needed =>
    intro key hkey
    exact exists_needed hscope hkey

end BrokerSettings

namespace Sample

/-- A port that is no number, and a key that is not known. -/
def noPort : PropertySet := (PropertySet.empty.insert "mq.Port" "x").insert "mq.vhost" "/a"

/-- The same port in another spelling, and another such key. -/
def noPortEither : PropertySet := (PropertySet.empty.insert "M-Q.PORT" "x").insert "host" "b"

end Sample

/-- Two bindings fail over the same port, which is spelled in two ways. -/
theorem hangsOnKnownKeys_sample :
    canonicalKey "mq" ≠ "" ∧
      SameUpToSpelling (BrokerSettings.bind Sample.noPort "mq")
        (BrokerSettings.bind Sample.noPortEither "mq") ∧
      BrokerSettings.bind Sample.noPort "mq" =
        .error (.invalidValue "mq.Port" "x" "invalid digit found in string") ∧
      BrokerSettings.bind Sample.noPortEither "mq" =
        .error (.invalidValue "mq.PORT" "x" "invalid digit found in string") := by
  have hscope : canonicalKey "mq" ≠ "" := by decide +kernel
  have agree : ∀ key ∈ knownKeys,
      Sample.noPort.get? ("mq" ++ "." ++ key) = Sample.noPortEither.get? ("mq" ++ "." ++ key) := by
    decide +kernel
  have reachable : Sample.noPort.Reachable := (PropertySet.Reachable.empty.insert _ _).insert _ _
  have reachableEither : Sample.noPortEither.Reachable :=
    (PropertySet.Reachable.empty.insert _ _).insert _ _
  have same := (BrokerSettings.hangsOnKnownKeys hscope).enough _ _ reachable reachableEither agree
  exact ⟨hscope, same, by decide +kernel, by decide +kernel⟩

end BrokerWiring
